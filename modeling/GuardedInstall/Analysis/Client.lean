import GuardedInstall.Analysis.Address
import GuardedInstall.Analysis.Reply
import GuardedInstall.Config.Basic
import GuardedInstall.File.System
import GuardedInstall.Lockfile.Dependency
import GuardedInstall.Program
import GuardedInstall.Text.Base64
import GuardedInstall.Text.Encoding

/-!
# The analysis service

A client sends one list of packages in one request and decodes what comes
back. The request is built before anything is sent, and what the reply means
depends only on the reply, on the limit of time and on where the request went.
-/

namespace GuardedInstall.Analysis

open GuardedInstall.Json (Value)
open GuardedInstall.Lockfile (Dependency)

/-- The longest time to wait for an answer, in seconds. A limit of another form is
known by its text only. -/
inductive TimeLimit where
  | whole (seconds : Int)
  | real (seconds : Float)
  | unlimited
  | named (text : String)

/-- The limit of time as a message shows it. -/
def TimeLimit.text : TimeLimit → String
  | whole seconds => String.ofList (Decimal.integerText seconds)
  | real seconds => String.ofList (Decimal.realText seconds)
  | unlimited => "None"
  | named text => text

/-- What a client needs to know of the service. An empty token and an empty
project count as absent. -/
structure Client where
  baseUrl : String
  token : Option String
  timeLimit : TimeLimit
  project : Option String

/-- A request to the service. -/
structure Request where
  method : String
  address : Address
  headers : List (String × String)
  body : Value

/-- What comes back from sending a request. -/
inductive Response where
  | received (status : Int) (body : File.Bytes)
  | timedOut
  | unreachable (detail : String)
  | broken (detail : String)

/-- Why the service gives no evaluation. -/
inductive Error where
  | status (code : Int)
  | timedOut (limit : String)
  | unreachable (detail : String)
  | notADocument
  | tooManyDigits (count : Nat)
  | unknownAddress (address : String)
  | notAnObject
  | reply (error : ReplyError)
  deriving DecidableEq, Repr

/-- The message of an error. -/
def Error.message : Error → String
  | status code => s!"HTTP {code} from analysis service"
  | timedOut limit => s!"Analysis timed out after {limit}s"
  | unreachable detail => s!"Analysis request failed: {detail}"
  | notADocument => "Analysis response is not JSON: <detail>"
  | tooManyDigits count =>
      s!"Analysis response is not JSON: {Json.tooManyDigitsMessage count}"
  | unknownAddress address =>
      s!"Analysis response is not JSON: unknown url type: {Text.Quoted.literal address}"
  | notAnObject => "Unexpected analysis response: expected a JSON object"
  | reply error => s!"Unexpected analysis response: {error.message}"

/-- A fault that is not told as an error of the service: an address that is
none, a count without bound, or a sender that breaks. -/
inductive Fault where
  | address (error : AddressError)
  | infiniteCount
  | broken (detail : String)
  deriving DecidableEq, Repr

/-- The message of a fault. -/
def Fault.message : Fault → String
  | address error => error.message
  | infiniteCount => infiniteCountMessage
  | broken detail => detail

/-- Why there is no evaluation. -/
inductive Failure where
  | reported (error : Error)
  | fault (fault : Fault)
  deriving DecidableEq, Repr

/-- The message of a failure. -/
def Failure.message : Failure → String
  | reported error => error.message
  | fault cause => cause.message

/-- An analyzer evaluates a list of dependencies. It tells the requests that it
sent. -/
abbrev Analyzer := List Dependency → List Request × Except Failure Evaluation

/-- A dependency as a package of a request. -/
def packageOf (dependency : Dependency) : Value :=
  .object
    [("name", .text dependency.name), ("version", .text dependency.version),
      ("type", .text dependency.registry)]

namespace Client

/-- The client that a configuration describes. -/
def ofConfiguration (configuration : Config.Configuration) : Client where
  baseUrl := configuration.apiUrl
  token := configuration.apiToken
  timeLimit := .real configuration.apiTimeout
  project := configuration.project

/-- The text of an option, where it is not empty. -/
def given (text : Option String) : Option String :=
  text.filter (· ≠ "")

/-- The path of the service that evaluates packages. -/
def evaluatePath : String := "/data/jobs/evaluate"

/-- The text of the address that a request goes to. -/
def target (client : Client) : List Char :=
  Text.trimEnd (· == '/') client.baseUrl.toList ++ evaluatePath.toList

/-- The body of a request. -/
def body (client : Client) (dependencies : List Dependency) : Value :=
  .object
    ([("packages", .list (dependencies.map packageOf)), ("is_user", .boolean true)] ++
      ((given client.project).map fun project => ("project", .text project)).toList)

/-- The value of the header that authorises a request. A user in the address
takes the place of the token. -/
def authorization? (client : Client) (address : Address) : Option String :=
  match address.credentials? with
  | some credentials => some ("Basic " ++ String.ofList (Text.Base64.encode credentials))
  | none => (given client.token).map ("Bearer " ++ ·)

/-- The headers of a request. -/
def headers (client : Client) (address : Address) : List (String × String) :=
  [("user-agent", Program.name ++ "/" ++ Program.version), ("accept", "application/json")] ++
    ((client.authorization? address).map fun value => ("authorization", value)).toList ++
    [("content-type", "application/json")]

/-- Whether a text can be sent. A half of a pair has no bytes. -/
def isSendable (text : String) : Bool :=
  !text.toList.any Text.Half.isHalf

/-- Whether a dependency can be sent. -/
def isSendableDependency (dependency : Dependency) : Bool :=
  [dependency.name, dependency.version, dependency.registry].all isSendable

/-- The request for the evaluation of dependencies. A token outside of ASCII
cannot be sent; it is found before the address is read. Neither can a host outside
of ASCII or a text with a half of a pair. -/
def request (client : Client) (dependencies : List Dependency) : Except Failure Request := do
  if (given client.token).any fun token => token.toList.any fun c => 0x80 ≤ c.toNat then
    throw (.reported .notADocument)
  match Address.parse client.target with
  | .error .half => throw (.reported .notADocument)
  | .error error => throw (.fault (.address error))
  | .ok address =>
      let address := if address.isAbsolute then address else address.fromTop
      if !dependencies.all isSendableDependency || (given client.project).any (!isSendable ·) ||
          address.host.any fun c => 0x80 ≤ c.toNat then
        throw (.reported .notADocument)
      pure
        { method := "POST"
          address
          headers := client.headers address
          body := client.body dependencies }

/-- The evaluation in the body of a reply. -/
def decode (body : File.Bytes) : Except Failure Evaluation :=
  match Text.Encoding.decode body with
  | none => .error (.reported .notADocument)
  | some text =>
      match Json.read text with
      | .error .malformed => .error (.reported .notADocument)
      | .error (.tooManyDigits count) => .error (.reported (.tooManyDigits count))
      | .ok (.object fields) =>
          match Reply.evaluation (.object fields) with
          | .ok evaluation => .ok evaluation
          | .error (.shape error) => .error (.reported (.reply error))
          | .error .infiniteCount => .error (.fault .infiniteCount)
      | .ok _ => .error (.reported .notAnObject)

/-- Whether a status tells of success. -/
def isSuccess (status : Int) : Bool :=
  200 ≤ status && status < 300

/-- What a response to a request means. A reply is not looked at when the
request went to no host. -/
def conclude (client : Client) (address : Address) : Response → Except Failure Evaluation
  | .received status body =>
      if !address.isAbsolute then .error (.reported (.unknownAddress address.toText))
      else if isSuccess status then decode body
      else .error (.reported (.status status))
  | .timedOut => .error (.reported (.timedOut client.timeLimit.text))
  | .unreachable detail => .error (.reported (.unreachable detail))
  | .broken detail => .error (.fault (.broken detail))

/-- Have dependencies evaluated, given how requests are answered. -/
def check (client : Client) (send : Request → Response) : Analyzer := fun dependencies =>
  match client.request dependencies with
  | .error failure => ([], .error failure)
  | .ok request => ([request], client.conclude request.address (send request))

end Client

end GuardedInstall.Analysis
