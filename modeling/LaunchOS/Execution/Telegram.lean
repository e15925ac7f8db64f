import LaunchOS.Analytics.Contracts
import Mathlib.Tactic.SplitIfs

/-!
# The Telegram connector

`publish_text` of `execution/telegram.py`: it sends the message and turns every failure into one of
two errors. The caller takes `TelegramConnectorRejected` for a message that was certainly not sent,
and `TelegramAmbiguousOutcome` for one that may have been.

The library calls behind it (`urlopen`, `read`, `json.loads`) may do anything: they are parameters,
and may raise any exception that is not one of the connector's own. An `except` clause catches an
exception by its class, so the classes have their `__mro__`.

The module introduces:

* `ExceptionClass.mro`, `LibraryError`, `ConnectorError`: the exceptions, and what catches them;
* `HttpLayer`: what a call to the provider may do;
* `TelegramHttpConnector.request`, `writeCall`, `publishText`: the connector;
* `CertainlyRefused`, `SoundFailure`: what an error may tell;
* `publishText_sound_iff`: when it tells the truth;
* `SoundFailure.handled`: what the handler of the execution job makes of it.
-/

namespace LaunchOS

open Analytics (JsonDict)

/-! ## Exceptions -/

/-- The classes that the `except` clauses name, and others that the library raises. -/
inductive ExceptionClass
  | exception
  | osError
  | urlError
  | httpError
  | timeoutError
  | connectionError
  | remoteDisconnected
  | sslError
  | httpException
  | badStatusLine
  | incompleteRead
  | invalidUrl
  | valueError
  | jsonDecodeError
  | unicodeDecodeError
  | unicodeEncodeError
  | typeError
  | runtimeError
  | recursionError
  | memoryError
  | telegramConnectorError
  | telegramConnectorRejected
  | telegramAmbiguousOutcome
deriving DecidableEq, Repr

/-- `__mro__`, without `object`, `BaseException` and mixins. -/
def ExceptionClass.mro : ExceptionClass → List ExceptionClass
  | .exception => [.exception]
  | .osError => [.osError, .exception]
  | .urlError => [.urlError, .osError, .exception]
  | .httpError => [.httpError, .urlError, .osError, .exception]
  | .timeoutError => [.timeoutError, .osError, .exception]
  | .connectionError => [.connectionError, .osError, .exception]
  -- `ConnectionResetError` and `BadStatusLine`
  | .remoteDisconnected =>
      [.remoteDisconnected, .connectionError, .osError, .badStatusLine, .httpException, .exception]
  | .sslError => [.sslError, .osError, .exception]
  | .httpException => [.httpException, .exception]
  | .badStatusLine => [.badStatusLine, .httpException, .exception]
  | .incompleteRead => [.incompleteRead, .httpException, .exception]
  | .invalidUrl => [.invalidUrl, .httpException, .exception]
  | .valueError => [.valueError, .exception]
  | .jsonDecodeError => [.jsonDecodeError, .valueError, .exception]
  | .unicodeDecodeError => [.unicodeDecodeError, .valueError, .exception]
  | .unicodeEncodeError => [.unicodeEncodeError, .valueError, .exception]
  | .typeError => [.typeError, .exception]
  | .runtimeError => [.runtimeError, .exception]
  | .recursionError => [.recursionError, .runtimeError, .exception]
  | .memoryError => [.memoryError, .exception]
  | .telegramConnectorError => [.telegramConnectorError, .runtimeError, .exception]
  | .telegramConnectorRejected =>
      [.telegramConnectorRejected, .telegramConnectorError, .runtimeError, .exception]
  | .telegramAmbiguousOutcome =>
      [.telegramAmbiguousOutcome, .telegramConnectorError, .runtimeError, .exception]

/-- `except (…)`. -/
def ExceptionClass.CaughtBy (cls : ExceptionClass) (classes : List ExceptionClass) : Prop :=
  ∃ c ∈ cls.mro, c ∈ classes

instance (cls : ExceptionClass) (classes : List ExceptionClass) : Decidable (cls.CaughtBy classes) :=
  inferInstanceAs (Decidable (∃ c ∈ cls.mro, c ∈ classes))

/-- The classes of the clause for a failed transport. -/
def transportErrors : List ExceptionClass := [.urlError, .timeoutError, .osError]

/-- The classes of the clause for an answer that cannot be read. -/
def responseErrors : List ExceptionClass :=
  [.jsonDecodeError, .unicodeDecodeError, .valueError, .typeError]

/-- What the library raises: an `HTTPError` with its status, or any other exception. The connector's
own errors are none of the library's. -/
inductive LibraryError
  | httpError (code : ℤ)
  | raised (cls : ExceptionClass)
      (foreign : cls ∉ [.httpError, .telegramConnectorError, .telegramConnectorRejected,
        .telegramAmbiguousOutcome])
deriving DecidableEq

/-- What `publish_text` raises. -/
inductive ConnectorError
  | rejected (errorClass : String)
  | ambiguous (errorClass : String)
  | library (error : LibraryError)
deriving DecidableEq

/-- The class of an exception. -/
def ConnectorError.cls : ConnectorError → ExceptionClass
  | .rejected _ => .telegramConnectorRejected
  | .ambiguous _ => .telegramAmbiguousOutcome
  | .library (.httpError _) => .httpError
  | .library (.raised cls _) => cls

/-- `ValueError` and `UnicodeDecodeError`, raised while the answer is read. -/
def LibraryError.valueError : LibraryError := .raised .valueError (by decide)

def LibraryError.unicodeDecodeError : LibraryError := .raised .unicodeDecodeError (by decide)

/-! ## The provider -/

/-- A `Request` with the method `POST`. -/
structure HttpRequest where
  url : String
  data : JsonDict

/-- What the library does with a request and with the text of an answer. -/
structure HttpLayer where
  /-- `urlopen` with a timeout, and `read` on its response. -/
  urlopen : HttpRequest → Except LibraryError ByteArray
  /-- `json.loads`. -/
  loads : String → Except LibraryError Analytics.Json

/-- `raw.decode("utf-8")`. -/
def decodeUtf8 (raw : ByteArray) : Except LibraryError String :=
  match String.fromUTF8? raw with
  | some text => .ok text
  | none => .error .unicodeDecodeError

/-- The answer to a request, decoded. -/
def HttpLayer.answer (http : HttpLayer) (request : HttpRequest) :
    Except LibraryError Analytics.Json := do
  let raw ← http.urlopen request
  let text ← decodeUtf8 raw
  http.loads text

/-! ## The connector -/

/-- `str.isspace` of a character. -/
def isWhitespace (c : Char) : Bool :=
  let n := c.toNat
  (9 ≤ n && n ≤ 13) || (28 ≤ n && n ≤ 32) || (0x2000 ≤ n && n ≤ 0x200a) ||
    [0x85, 0xa0, 0x1680, 0x2028, 0x2029, 0x202f, 0x205f, 0x3000].contains n

/-- `str.strip()`. -/
def stripText (text : String) : String :=
  String.ofList ((text.toList.dropWhile isWhitespace).reverse.dropWhile isWhitespace).reverse

/-- `TELEGRAM_SECRET_REF`. -/
def telegramSecretRef : String := "telegram.bot_token"

/-- `TelegramHttpConnector`, with the setting that its resolver reads. -/
structure TelegramHttpConnector where
  telegramBotToken : Option String
  secretRef : String := telegramSecretRef

/-- `TelegramPublishResult`. -/
structure TelegramPublishResult where
  messageId : String
  chatId : String
deriving DecidableEq, Repr

/-- `SettingsSecretResolver.resolve`, with the error class of the `TelegramConnectorRejected` that it
raises. -/
def TelegramHttpConnector.resolve (connector : TelegramHttpConnector) : Except String String :=
  if connector.secretRef ≠ telegramSecretRef then .error "TELEGRAM_SECRET_REF_UNSUPPORTED"
  else
    match connector.telegramBotToken with
    | none => .error "TELEGRAM_CREDENTIAL_UNAVAILABLE"
    | some token =>
        if stripText token = "" then .error "TELEGRAM_CREDENTIAL_UNAVAILABLE"
        else .ok (stripText token)

/-- The field `ok` of an answer is `True`. -/
def isOk (fields : JsonDict) : Bool :=
  match fields.lookup "ok" with
  | some (.bool true) => true
  | _ => false

/-- An `int`, as it is formatted. -/
def formatInt : Analytics.Json → Option String
  | .int value => some (toString value)
  | .bool value => some (if value then "True" else "False")
  | _ => none

/-- What `_request` makes of a decoded answer. -/
def readAnswer : Analytics.Json → Except ConnectorError JsonDict
  | .dict fields =>
      if isOk fields then
        match (fields.lookup "result").bind Analytics.Json.asDict with
        | some result => .ok result
        | none => .error (.library .valueError)
      else
        match (fields.lookup "error_code").bind formatInt with
        | some code => .error (.rejected ("TELEGRAM_API_" ++ code))
        | none => .error (.rejected "TELEGRAM_API_REJECTED")
  | _ => .error (.library .valueError)

/-- What `_request` makes of what comes back. -/
def readReply : Except LibraryError Analytics.Json → Except ConnectorError JsonDict
  | .error error => .error (.library error)
  | .ok decoded => readAnswer decoded

namespace TelegramHttpConnector

/-- The request that `_request` sends. -/
def httpRequest (token method : String) (payload : JsonDict) : HttpRequest where
  url := "https://api.telegram.org/bot" ++ token ++ "/" ++ method
  data := payload

/-- `_request`. -/
def request (connector : TelegramHttpConnector) (http : HttpLayer) (method : String)
    (payload : JsonDict) : Except ConnectorError JsonDict :=
  match connector.resolve with
  | .error errorClass => .error (.rejected errorClass)
  | .ok token => readReply (http.answer (httpRequest token method payload))

/-- The `except` clauses of `_write_call`, in their order. -/
def classify : ConnectorError → ConnectorError
  | .library (.httpError code) => .rejected ("TELEGRAM_HTTP_" ++ toString code)
  | error =>
      if error.cls.CaughtBy transportErrors then .ambiguous "TELEGRAM_TRANSPORT_AMBIGUOUS"
      else if error.cls.CaughtBy responseErrors then .ambiguous "TELEGRAM_RESPONSE_AMBIGUOUS"
      else error

/-- `_write_call`. -/
def writeCall (connector : TelegramHttpConnector) (http : HttpLayer) (method : String)
    (payload : JsonDict) : Except ConnectorError JsonDict :=
  (connector.request http method payload).mapError classify

/-- The payload of a message. -/
def payloadOf (command : TelegramPublishTextCommand) : JsonDict :=
  [("chat_id", .str command.chatId), ("text", .str command.text),
    ("disable_notification", .bool command.disableNotification),
    ("protect_content", .bool command.protectContent)]

/-- What `publish_text` makes of the result. -/
def readMessage (command : TelegramPublishTextCommand) (result : JsonDict) :
    Except ConnectorError TelegramPublishResult :=
  match (result.lookup "message_id").bind Analytics.Json.asIntOrStr with
  | none => .error (.ambiguous "TELEGRAM_RESPONSE_MISSING_MESSAGE_ID")
  | some messageId =>
      let responseChatId := (((result.lookup "chat").bind Analytics.Json.asDict).bind
        (List.lookup "id")).bind Analytics.Json.asIntOrStr
      .ok { messageId := messageId, chatId := responseChatId.getD command.chatId }

/-- `publish_text`. -/
def publishText (connector : TelegramHttpConnector) (http : HttpLayer)
    (command : TelegramPublishTextCommand) : Except ConnectorError TelegramPublishResult := do
  let result ← connector.writeCall http "sendMessage" (payloadOf command)
  readMessage command result

/-- The request that `publish_text` sends. -/
def messageRequest (token : String) (command : TelegramPublishTextCommand) : HttpRequest :=
  httpRequest token "sendMessage" (payloadOf command)

end TelegramHttpConnector

/-! ## What an error may tell -/

/-- The field `ok` of an answer is `False`. -/
def isNotOk (fields : JsonDict) : Bool :=
  match fields.lookup "ok" with
  | some (.bool false) => true
  | _ => false

/-- The provider has certainly not accepted a message: a status from 400 to 499, or a decoded answer
whose `ok` is `False`. -/
def Refuses : Except LibraryError Analytics.Json → Prop
  | .error (.httpError code) => 400 ≤ code ∧ code ≤ 499
  | .error (.raised _ _) => False
  | .ok (.dict fields) => isNotOk fields
  | .ok _ => False

/-- What the connector is written for: of the statuses only those from 400 to 499, of the other
exceptions only those that it catches, and of the objects only those that say whether they are ok. -/
def Foreseen : Except LibraryError Analytics.Json → Prop
  | .error (.httpError code) => 400 ≤ code ∧ code ≤ 499
  | .error (.raised cls _) => cls.CaughtBy (transportErrors ++ responseErrors)
  | .ok (.dict fields) => isOk fields ∨ isNotOk fields
  | .ok _ => True

section Sound

open TelegramHttpConnector

variable (connector : TelegramHttpConnector) (http : HttpLayer) (command : TelegramPublishTextCommand)

/-- The message has certainly not been sent: there is no credential, or the provider has refused. -/
def CertainlyRefused : Prop :=
  match connector.resolve with
  | .error _ => True
  | .ok token => Refuses (http.answer (messageRequest token command))

/-- A rejection is certain, and every other failure is reported as ambiguous. -/
def SoundFailure : Prop :=
  ∀ error, connector.publishText http command = .error error →
    (∃ errorClass, error = .rejected errorClass) ∧ CertainlyRefused connector http command ∨
      ∃ errorClass, error = .ambiguous errorClass

/-- There is no credential, or the answer is one that the connector is written for. -/
def ForeseenAnswer : Prop :=
  ∀ token, connector.resolve = .ok token → Foreseen (http.answer (messageRequest token command))

end Sound

namespace TelegramHttpConnector

/-- What `publish_text` makes of an answer. -/
def settle (command : TelegramPublishTextCommand) (answer : Except LibraryError Analytics.Json) :
    Except ConnectorError TelegramPublishResult := do
  let result ← (readReply answer).mapError classify
  readMessage command result

variable {connector : TelegramHttpConnector} {http : HttpLayer} {command : TelegramPublishTextCommand}
variable {answer : Except LibraryError Analytics.Json}

theorem publishText_of_unresolved {errorClass : String} (h : connector.resolve = .error errorClass) :
    connector.publishText http command = .error (.rejected errorClass) := by
  rw [publishText, writeCall, request, h]
  rfl

theorem publishText_of_resolved {token : String} (h : connector.resolve = .ok token) :
    connector.publishText http command =
      settle command (http.answer (messageRequest token command)) := by
  rw [publishText, writeCall, request, h]
  rfl

theorem settle_of_error {error : ConnectorError} (h : readReply answer = .error error) :
    settle command answer = .error (classify error) := by
  rw [settle, h]
  rfl

theorem settle_of_ok {result : JsonDict} (h : readReply answer = .ok result) :
    settle command answer = readMessage command result := by
  rw [settle, h]
  rfl

/-! ### Each kind of answer -/

/-- What `publish_text` makes of an answer tells the truth. -/
def Settles (command : TelegramPublishTextCommand)
    (answer : Except LibraryError Analytics.Json) : Prop :=
  ∀ error, settle command answer = .error error →
    (∃ errorClass, error = .rejected errorClass) ∧ Refuses answer ∨
      ∃ errorClass, error = .ambiguous errorClass

theorem settles_of_rejected {error : ConnectorError} {errorClass : String}
    (h : readReply answer = .error error) (hclassify : classify error = .rejected errorClass) :
    Settles command answer ↔ Refuses answer := by
  rw [Settles, settle_of_error h, hclassify]
  constructor
  · intro hsettles
    rcases hsettles _ rfl with ⟨-, hrefuses⟩ | ⟨_, hambiguous⟩
    · exact hrefuses
    · cases hambiguous
  · intro hrefuses error herror
    exact .inl ⟨⟨errorClass, (Except.error.inj herror).symm⟩, hrefuses⟩

theorem settles_of_ambiguous {error : ConnectorError} {errorClass : String}
    (h : readReply answer = .error error) (hclassify : classify error = .ambiguous errorClass) :
    Settles command answer := by
  rw [Settles, settle_of_error h, hclassify]
  intro error herror
  exact .inr ⟨errorClass, (Except.error.inj herror).symm⟩

/-- Whatever a result holds, the message may have been sent. -/
theorem settles_of_ok {result : JsonDict} (h : readReply answer = .ok result) :
    Settles command answer := by
  rw [Settles, settle_of_ok h]
  intro error herror
  unfold readMessage at herror
  split at herror
  · exact .inr ⟨_, (Except.error.inj herror).symm⟩
  · cases herror

/-- An exception of the library, other than an `HTTPError`, is ambiguous if a clause catches it, and
escapes if none does. -/
theorem settles_raised_iff {cls : ExceptionClass} {hforeign} :
    Settles command (.error (.raised cls hforeign)) ↔
      cls.CaughtBy (transportErrors ++ responseErrors) := by
  have hboth : cls.CaughtBy (transportErrors ++ responseErrors) ↔
      cls.CaughtBy transportErrors ∨ cls.CaughtBy responseErrors := by
    simp only [ExceptionClass.CaughtBy, List.mem_append]
    aesop
  have hreply : readReply (.error (.raised cls hforeign)) = .error (.library (.raised cls hforeign)) :=
    rfl
  rw [hboth]
  by_cases htransport : cls.CaughtBy transportErrors
  · have hambiguous : classify (.library (.raised cls hforeign)) =
        .ambiguous "TELEGRAM_TRANSPORT_AMBIGUOUS" := if_pos htransport
    exact iff_of_true (settles_of_ambiguous hreply hambiguous) (.inl htransport)
  · by_cases hresponse : cls.CaughtBy responseErrors
    · have hambiguous : classify (.library (.raised cls hforeign)) =
          .ambiguous "TELEGRAM_RESPONSE_AMBIGUOUS" :=
        (if_neg htransport).trans (if_pos hresponse)
      exact iff_of_true (settles_of_ambiguous hreply hambiguous) (.inr hresponse)
    · have hescapes : classify (.library (.raised cls hforeign)) =
          .library (.raised cls hforeign) :=
        (if_neg htransport).trans (if_neg hresponse)
      refine iff_of_false (fun hsettles => ?_) (not_or.mpr ⟨htransport, hresponse⟩)
      rw [Settles, settle_of_error hreply, hescapes] at hsettles
      rcases hsettles _ rfl with ⟨⟨_, hrejected⟩, -⟩ | ⟨_, hambiguous⟩
      · cases hrejected
      · cases hambiguous

/-- An object that does not say `ok` is rejected, so it has to say that it is not. -/
theorem settles_dict_iff (fields : JsonDict) :
    Settles command (.ok (.dict fields)) ↔ isOk fields ∨ isNotOk fields := by
  by_cases hok : isOk fields
  · refine iff_of_true ?_ (.inl hok)
    cases hresult : (fields.lookup "result").bind Analytics.Json.asDict with
    | some result =>
        have hreply : readReply (.ok (.dict fields)) = .ok result := by
          rw [readReply, readAnswer, if_pos hok, hresult]
        exact settles_of_ok hreply
    | none =>
        have hreply : readReply (.ok (.dict fields)) = .error (.library .valueError) := by
          rw [readReply, readAnswer, if_pos hok, hresult]
        exact settles_of_ambiguous hreply rfl
  · have hrejected : ∃ errorClass, readReply (.ok (.dict fields)) = .error (.rejected errorClass) := by
      rw [readReply, readAnswer, if_neg hok]
      cases (fields.lookup "error_code").bind formatInt with
      | some code => exact ⟨_, rfl⟩
      | none => exact ⟨_, rfl⟩
    obtain ⟨errorClass, hreply⟩ := hrejected
    rw [settles_of_rejected hreply rfl]
    exact (or_iff_right hok).symm

theorem settles_iff (command : TelegramPublishTextCommand)
    (answer : Except LibraryError Analytics.Json) :
    Settles command answer ↔ Foreseen answer := by
  have hvalueError : ∀ decoded, readReply (.ok decoded) = .error (.library .valueError) →
      Settles command (.ok decoded) := fun decoded hreply => settles_of_ambiguous hreply rfl
  cases answer with
  | error error =>
      cases error with
      | httpError code =>
          have hreply : readReply (.error (.httpError code)) = .error (.library (.httpError code)) :=
            rfl
          exact settles_of_rejected hreply rfl
      | raised cls hforeign => exact settles_raised_iff
  | ok decoded =>
      cases decoded with
      | dict fields => exact settles_dict_iff fields
      | _ => exact iff_of_true (hvalueError _ rfl) trivial

end TelegramHttpConnector

/-! ## Soundness -/

section Soundness

open TelegramHttpConnector

variable {connector : TelegramHttpConnector} {http : HttpLayer} {command : TelegramPublishTextCommand}

/-- Without a credential there is no call. -/
theorem soundFailure_of_unresolved {errorClass : String}
    (h : connector.resolve = .error errorClass) : SoundFailure connector http command := by
  intro error herror
  rw [publishText_of_unresolved h] at herror
  refine .inl ⟨⟨errorClass, (Except.error.inj herror).symm⟩, ?_⟩
  rw [CertainlyRefused, h]
  trivial

theorem soundFailure_iff_settles {token : String} (h : connector.resolve = .ok token) :
    SoundFailure connector http command ↔
      Settles command (http.answer (messageRequest token command)) := by
  rw [SoundFailure, publishText_of_resolved h, CertainlyRefused, h]
  exact Iff.rfl

end Soundness

/-- Whatever the provider and the library do, `publish_text` reports a rejection only if the message
has certainly not been sent, and every other failure as ambiguous, if and only if the answer is one
that the connector is written for. -/
theorem publishText_sound_iff (connector : TelegramHttpConnector) (http : HttpLayer)
    (command : TelegramPublishTextCommand) :
    SoundFailure connector http command ↔ ForeseenAnswer connector http command := by
  cases hresolve : connector.resolve with
  | error errorClass =>
      refine iff_of_true (soundFailure_of_unresolved hresolve) fun token htoken => ?_
      rw [hresolve] at htoken
      cases htoken
  | ok token =>
      have hforeseen : ForeseenAnswer connector http command ↔
          Foreseen (http.answer (TelegramHttpConnector.messageRequest token command)) := by
        rw [ForeseenAnswer, hresolve]
        simp
      rw [soundFailure_iff_settles hresolve, hforeseen, TelegramHttpConnector.settles_iff]

/-! ### A gateway that fails after it has sent the message -/

/-- Every call ends with this status. -/
def statusOnly (code : ℤ) : HttpLayer where
  urlopen _ := .error (.httpError code)
  loads _ := .error .valueError

/-- Every answer is cut off. -/
def truncated : HttpLayer where
  urlopen _ := .error (.raised .incompleteRead (by decide))
  loads _ := .error .valueError

/-- A connector with a token, and a message. -/
def demoConnector : TelegramHttpConnector where
  telegramBotToken := some "1:token"

def demoMessage : TelegramPublishTextCommand where
  chatId := "@channel"
  text := "hello"

/-- A status of 502 is reported as a rejection, and a body that is cut off is not reported at all. -/
theorem bad_gateway_rejected :
    (demoConnector.publishText (statusOnly 502) demoMessage =
        .error (.rejected "TELEGRAM_HTTP_502") ∧
      ¬ SoundFailure demoConnector (statusOnly 502) demoMessage) ∧
    demoConnector.publishText truncated demoMessage =
        .error (.library (.raised .incompleteRead (by decide))) ∧
      ¬ SoundFailure demoConnector truncated demoMessage := by
  have hgateway : demoConnector.publishText (statusOnly 502) demoMessage =
      .error (.rejected "TELEGRAM_HTTP_502") := by decide +kernel
  have htruncated : demoConnector.publishText truncated demoMessage =
      .error (.library (.raised .incompleteRead (by decide))) := by decide +kernel
  have hresolve : demoConnector.resolve = .ok "1:token" := by decide +kernel
  refine ⟨⟨hgateway, fun hsound => ?_⟩, htruncated, fun hsound => ?_⟩
  · rcases hsound _ hgateway with ⟨-, hrefused⟩ | ⟨_, hambiguous⟩
    · -- the status is not one of a refusal
      rw [CertainlyRefused, hresolve] at hrefused
      exact absurd hrefused.2 (by decide)
    · cases hambiguous
  · rcases hsound _ htruncated with ⟨⟨_, hrejected⟩, -⟩ | ⟨_, hambiguous⟩
    · cases hrejected
    · cases hambiguous

/-! ## The handler -/

/-- What the handler of the execution job goes on with; any other exception escapes it. -/
def PublishOutcome.ofPublishText :
    Except ConnectorError TelegramPublishResult → Option PublishOutcome
  | .ok result => some (.published result.messageId result.chatId)
  | .error (.ambiguous errorClass) => some (.ambiguous errorClass)
  | .error (.rejected errorClass) => some (.rejected errorClass)
  | .error (.library _) => none

/-- With sound failures nothing escapes the handler, and what it records as failed was not sent. -/
theorem SoundFailure.handled {connector : TelegramHttpConnector} {http : HttpLayer}
    {command : TelegramPublishTextCommand} (h : SoundFailure connector http command) :
    ∃ outcome, PublishOutcome.ofPublishText (connector.publishText http command) = some outcome ∧
      ∀ errorClass, outcome = .rejected errorClass → CertainlyRefused connector http command := by
  cases hresult : connector.publishText http command with
  | ok result =>
      refine ⟨_, rfl, fun errorClass heq => ?_⟩
      cases heq
  | error error =>
      rcases h error hresult with ⟨⟨errorClass, rfl⟩, hrefused⟩ | ⟨errorClass, rfl⟩
      · exact ⟨_, rfl, fun _ _ => hrefused⟩
      · refine ⟨_, rfl, fun _ heq => ?_⟩
        cases heq

end LaunchOS
