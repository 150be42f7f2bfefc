import GuardedInstall.Proofs.Analysis.Faults
import GuardedInstall.Proofs.Text.Lines

/-!
# What is asked of the analysis service

A client sends at most one request, and sends it only once all of it can be written. The
packages of the request are the dependencies, each one with its name, its version and its
registry, in their order. What the response means is a matter of the response alone: it
depends neither on what was asked nor on who asked.
-/

namespace GuardedInstall.Analysis

open GuardedInstall.Json (Value)
open GuardedInstall.Lockfile (Dependency)

/-- Where a request to an address goes. An address without a host is seen from the top. -/
def Address.reached (address : Address) : Address :=
  if address.isAbsolute then address else address.fromTop

namespace Client

open GuardedInstall.Stepwise

/-! ## Reading a request -/

/-- The value at a name of an object. -/
def valueAt? (name : String) : Value → Option Value
  | .object fields => Table.find? name fields
  | _ => none

/-- The text at a name of an object. -/
def textAt? (name : String) (value : Value) : Option String :=
  match valueAt? name value with
  | some (.text text) => some text
  | _ => none

/-- The dependency that a package describes. -/
def dependencyOf? (package : Value) : Option Dependency := do
  let name ← textAt? "name" package
  let version ← textAt? "version" package
  let registry ← textAt? "type" package
  some { name, version, registry }

/-- The dependencies that a body lists. -/
def dependenciesOf? (body : Value) : Option (List Dependency) :=
  match valueAt? "packages" body with
  | some (.list packages) => packages.mapM dependencyOf?
  | _ => none

@[simp]
theorem dependencyOf?_packageOf (dependency : Dependency) :
    dependencyOf? (packageOf dependency) = some dependency :=
  rfl

/-- Nothing is lost, joined or moved on the way into a body. -/
theorem dependenciesOf?_body (client : Client) (dependencies : List Dependency) :
    dependenciesOf? (client.body dependencies) = some dependencies := by
  have packages : valueAt? "packages" (client.body dependencies) =
      some (.list (dependencies.map packageOf)) := rfl
  simp only [dependenciesOf?, packages, List.mapM_map]
  induction dependencies with
  | nil => rfl
  | cons dependency rest ih => simp [List.mapM_cons, ih rfl]

/-! ## The parts of a request -/

variable {client : Client} {dependencies : List Dependency} {request : Request}

theorem given_eq_some_iff {text? : Option String} {text : String} :
    given text? = some text ↔ text? = some text ∧ text ≠ "" := by
  simp [given, Option.filter_eq_some_iff]

theorem valueAt?_project_body (client : Client) (dependencies : List Dependency) :
    valueAt? "project" (client.body dependencies) = (given client.project).map .text := by
  cases named : given client.project <;>
    simp [body, named, valueAt?, Table.find?]

theorem find?_authorization_headers (client : Client) (address : Address) :
    Table.find? "authorization" (client.headers address) = client.authorization? address := by
  cases authorised : client.authorization? address <;>
    simp [headers, authorised, Table.find?]

/-- A request is authorised by the user of its address, and else by the token. -/
theorem isSome_authorization?_iff {address : Address} :
    (client.authorization? address).isSome ↔
      (∃ token, client.token = some token ∧ token ≠ "") ∨ address.credentials?.isSome := by
  have spelled : (given client.token).isSome ↔ ∃ token, client.token = some token ∧ token ≠ "" := by
    simp only [Option.isSome_iff_exists, given_eq_some_iff]
  cases named : address.credentials? <;> simp [authorization?, named, ← spelled]

/-- The text of the address is the base without the slashes at its end, and the path. -/
theorem target_eq (client : Client) :
    ∃ base slashes, client.baseUrl.toList = base ++ slashes ∧ (∀ c ∈ slashes, c = '/') ∧
      base.getLast? ≠ some '/' ∧ client.target = base ++ evaluatePath.toList := by
  refine ⟨client.baseUrl.toList.rdropWhile (· == '/'),
    client.baseUrl.toList.rtakeWhile (· == '/'), ?_, ?_, ?_, rfl⟩
  · rw [List.rdropWhile_append_rtakeWhile]
  · intro c member
    simpa using List.mem_rtakeWhile_imp member
  · intro ends
    have nonempty := List.ne_nil_of_mem (List.mem_of_getLast? ends)
    rw [List.getLast?_eq_some_getLast nonempty, Option.some.injEq] at ends
    exact List.rdropWhile_last_not _ _ nonempty (by simp [ends])

/-! ## Which request is sent -/

/-- The request to an address. -/
def requestTo (client : Client) (dependencies : List Dependency) (address : Address) : Request where
  method := "POST"
  address
  headers := client.headers address
  body := client.body dependencies

/-- All that goes into a request to an address can be written. -/
structure Sendable (client : Client) (dependencies : List Dependency) (address : Address) :
    Prop where
  token : ¬ client.HasForeignToken
  dependencies : ∀ dependency ∈ dependencies, isSendableDependency dependency = true
  project : ∀ project, given client.project = some project → isSendable project = true
  host : ∀ c ∈ address.host, c.toNat < 0x80

/-- Behind a token that can be written, an address that is read either has its request or
stops at what cannot be written. -/
theorem request_of_parsed (dependencies : List Dependency) {address : Address}
    (token : ¬ client.HasForeignToken) (parsed : Address.parse client.target = .ok address) :
    client.Sendable dependencies address.reached ∧
        client.request dependencies = .ok (client.requestTo dependencies address.reached) ∨
      ¬ client.Sendable dependencies address.reached ∧
        client.request dependencies = .error (.reported .notADocument) := by
  let stops : Bool :=
    !dependencies.all isSendableDependency || (given client.project).any (!isSendable ·) ||
      address.reached.host.any fun c => 0x80 ≤ c.toNat
  have sendable : client.Sendable dependencies address.reached ↔ stops = false := by
    simp only [stops, Bool.or_eq_false_iff, Bool.not_eq_false', List.all_eq_true,
      Option.any_eq_false, List.any_eq_false, decide_eq_true_eq, Nat.not_le]
    constructor
    · rintro ⟨-, dependencies, project, host⟩
      exact ⟨⟨dependencies, by simpa using project⟩, host⟩
    · rintro ⟨⟨dependencies, project⟩, host⟩
      exact ⟨token, dependencies, by simpa using project, host⟩
  have made : client.request dependencies =
      if stops = true then .error (.reported .notADocument)
      else .ok (client.requestTo dependencies address.reached) := by
    have spelled : ((given client.token).any fun token =>
        token.toList.any fun c => 0x80 ≤ c.toNat) = false := by
      simpa [HasForeignToken] using token
    simp only [request, spelled, parsed]
    rfl
  cases stopped : stops with
  | false => exact .inl ⟨sendable.mpr stopped, by rw [made, stopped]; rfl⟩
  | true =>
      refine .inr ⟨fun all => ?_, by rw [made, stopped]; rfl⟩
      have goes := sendable.mp all
      rw [stopped] at goes
      cases goes

/-- A request is made exactly if its address can be read and all of it can be written. -/
theorem request_eq_ok_iff :
    client.request dependencies = .ok request ↔
      ∃ address, Address.parse client.target = .ok address ∧
        client.Sendable dependencies address.reached ∧
          request = client.requestTo dependencies address.reached := by
  by_cases foreign : client.HasForeignToken
  · rw [request_of_foreignToken foreign]
    simp only [reduceCtorEq, false_iff]
    rintro ⟨address, -, sendable, -⟩
    exact sendable.token foreign
  cases parsed : Address.parse client.target with
  | error error =>
      rw [request_of_unusable foreign parsed]
      simp
  | ok address =>
      rcases request_of_parsed dependencies foreign parsed with
        ⟨sendable, made⟩ | ⟨stopped, refused⟩
      · simp [made, sendable, eq_comm]
      · simp [refused, stopped]

/-- What is sent is the request, if there is one. -/
theorem mem_check_fst_iff {send : Request → Response} :
    request ∈ (client.check send dependencies).1 ↔ client.request dependencies = .ok request := by
  cases made : client.request dependencies with
  | error failure => simp [check, made]
  | ok sent => simp [check, made, eq_comm]

theorem mem_check_fst_of_sendable {address : Address} (send : Request → Response)
    (parsed : Address.parse client.target = .ok address)
    (sendable : client.Sendable dependencies address.reached) :
    client.requestTo dependencies address.reached ∈ (client.check send dependencies).1 :=
  mem_check_fst_iff.mpr (request_eq_ok_iff.mpr ⟨address, parsed, sendable, rfl⟩)

theorem check_snd_of_mem {send : Request → Response}
    (sent : request ∈ (client.check send dependencies).1) :
    (client.check send dependencies).2 = client.conclude request.address (send request) := by
  rw [check_snd, mem_check_fst_iff.mp sent, ok_bind]

/-- What a response means is up to the limit of time, and for a request without a host to
its address. -/
theorem conclude_congr {other : Client} {address reached : Address} (response : Response)
    (limit : other.timeLimit = client.timeLimit)
    (alike : reached = address ∨ reached.isAbsolute = true ∧ address.isAbsolute = true) :
    other.conclude reached response = client.conclude address response := by
  cases response with
  | received status body =>
      rcases alike with rfl | ⟨there, here⟩
      · rfl
      · simp [conclude, there, here]
  | timedOut => simp [conclude, limit]
  | unreachable detail => rfl
  | broken detail => rfl

/-! ## What is sent and what comes of it -/

/-- A request that carries a list of dependencies to the service of a client. -/
structure Carries (client : Client) (dependencies : List Dependency) (request : Request) :
    Prop where
  posts : request.method = "POST"
  address : ∃ base slashes address, client.baseUrl.toList = base ++ slashes ∧
    (∀ c ∈ slashes, c = '/') ∧ base.getLast? ≠ some '/' ∧
      Address.parse (base ++ "/data/jobs/evaluate".toList) = .ok address ∧
        request.address = address.reached
  packages : dependenciesOf? request.body = some dependencies
  project (value : Value) : valueAt? "project" request.body = some value ↔
    ∃ project, client.project = some project ∧ project ≠ "" ∧ value = .text project
  /-- The header is there for a token, or for a user in the address. -/
  authorised : (Table.find? "authorization" request.headers).isSome ↔
    (∃ token, client.token = some token ∧ token ≠ "") ∨ request.address.credentials?.isSome
  /-- Without a user in the address, the header holds the token. -/
  bearer (anonymous : request.address.credentials? = none) (value : String) :
    Table.find? "authorization" request.headers = some value ↔
      ∃ token, client.token = some token ∧ token ≠ "" ∧ value = "Bearer " ++ token

theorem carries_requestTo {address : Address}
    (parsed : Address.parse client.target = .ok address) :
    client.Carries dependencies (client.requestTo dependencies address.reached) where
  posts := rfl
  address := by
    obtain ⟨base, slashes, split, plain, ends, targeted⟩ := client.target_eq
    rw [targeted] at parsed
    exact ⟨base, slashes, address, split, plain, ends, parsed, rfl⟩
  packages := dependenciesOf?_body client dependencies
  project value := by
    simp only [requestTo, valueAt?_project_body, Option.map_eq_some_iff, given_eq_some_iff,
      and_assoc, @eq_comm _ value]
  authorised := by
    simp only [requestTo, find?_authorization_headers]
    exact isSome_authorization?_iff
  bearer anonymous value := by
    have unnamed : address.reached.credentials? = none := anonymous
    simp only [requestTo, find?_authorization_headers, authorization?, unnamed,
      Option.map_eq_some_iff, given_eq_some_iff, and_assoc, @eq_comm _ value]

/-- A call of a client: at most one request is sent, it carries the dependencies, and what
comes of it is what comes of every call with the same limit of time that is answered alike. -/
structure AsksOnce (client : Client) (send : Request → Response)
    (dependencies : List Dependency) : Prop where
  once : (client.check send dependencies).1.length ≤ 1
  carries : ∀ request ∈ (client.check send dependencies).1, client.Carries dependencies request
  alike (request sent : Request) (other : Client) (answer : Request → Response)
    (others : List Dependency) (here : request ∈ (client.check send dependencies).1)
    (there : sent ∈ (other.check answer others).1) (limit : other.timeLimit = client.timeLimit)
    (reach : other.baseUrl = client.baseUrl ∨
      sent.address.isAbsolute = true ∧ request.address.isAbsolute = true)
    (answered : answer sent = send request) :
    (other.check answer others).2 = (client.check send dependencies).2

theorem asksOnce (client : Client) (send : Request → Response)
    (dependencies : List Dependency) : client.AsksOnce send dependencies := by
  constructor
  case once =>
    cases made : client.request dependencies <;> simp [check, made]
  case carries =>
    intro request sent
    obtain ⟨address, parsed, -, rfl⟩ := request_eq_ok_iff.mp (mem_check_fst_iff.mp sent)
    exact carries_requestTo parsed
  case alike =>
    intro request sent other answer others here there limit reach answered
    rw [check_snd_of_mem here, check_snd_of_mem there, answered]
    refine conclude_congr _ limit (reach.imp_left fun same => ?_)
    -- The same text is read as the same address.
    obtain ⟨address, parsed, -, rfl⟩ := request_eq_ok_iff.mp (mem_check_fst_iff.mp here)
    obtain ⟨reached, read, -, rfl⟩ := request_eq_ok_iff.mp (mem_check_fst_iff.mp there)
    have targets : other.target = client.target := by
      rw [target, target, same]
    rw [targets, parsed, Except.ok.injEq] at read
    simp only [requestTo, read]

/-- A client with a token and a project, whose base ends in slashes. -/
def projectClient : Client where
  baseUrl := "https://api.test//"
  token := some "secret"
  timeLimit := .unlimited
  project := some "demo"

/-- The address of a service on a host of its own. -/
def serviceAddress : Address where
  scheme := "https".toList
  user := []
  host := "api.test".toList
  port := none
  path := "/data/jobs/evaluate".toList
  query := none
  fragment := none

theorem ascii_serviceHost : ∀ c ∈ serviceAddress.host, c.toNat < 0x80 := by
  have ascii : serviceAddress.host.all (fun c => decide (c.toNat < 0x80)) = true := by decide
  intro c among
  exact of_decide_eq_true (List.all_eq_true.mp ascii c among)

/-- Two versions of one package, one of them twice. -/
def padded : List Dependency :=
  [⟨"left-pad", "1.3.0", "npm"⟩, ⟨"left-pad", "1.2.0", "npm"⟩, ⟨"left-pad", "1.3.0", "npm"⟩]

/-- The same client without a token and a project. -/
def bareClient : Client :=
  { projectClient with token := none, project := none }

theorem asksOnce_projectClient :
    projectClient.Carries padded (projectClient.requestTo padded serviceAddress.reached) ∧
      (bareClient.check (fun _ => endlessReply) []).2 =
        (projectClient.check (fun _ => endlessReply) padded).2 := by
  have parsed : Address.parse projectClient.target = .ok serviceAddress := by
    with_unfolding_all rfl
  have sendable : projectClient.Sendable padded serviceAddress.reached := by
    refine ⟨?_, by decide, ?_, ascii_serviceHost⟩
    · simp [HasForeignToken, projectClient, given]
    · simp [projectClient, given]
      decide
  have bare : bareClient.Sendable [] serviceAddress.reached := by
    refine ⟨?_, by simp, by simp [bareClient, given], ascii_serviceHost⟩
    simp [HasForeignToken, bareClient, given]
  have sent := mem_check_fst_of_sendable (fun _ => endlessReply) parsed sendable
  have parsedBare : Address.parse bareClient.target = .ok serviceAddress := parsed
  have sentBare := mem_check_fst_of_sendable (fun _ => endlessReply) parsedBare bare
  obtain ⟨-, carries, alike⟩ := asksOnce projectClient (fun _ => endlessReply) padded
  exact ⟨carries _ sent, alike _ _ _ _ _ sent sentBare rfl (.inl rfl) rfl⟩

/-- A client with a user in the address of its service. -/
def namedClient : Client where
  baseUrl := "https://u:p@api.test"
  token := none
  timeLimit := .unlimited
  project := none

/-- The address of the same service with that user. -/
def namedAddress : Address :=
  { serviceAddress with user := "u:p".toList }

/-- Its request is authorised, though there is no token. -/
theorem not_forall_authorised :
    ¬ ∀ (client : Client) (send : Request → Response) (dependencies : List Dependency)
      (address : Address), Address.parse client.target = .ok address → address.isAbsolute = true →
      ∀ request ∈ (client.check send dependencies).1,
        (Table.find? "authorization" request.headers).isSome ↔
          ∃ token, client.token = some token ∧ token ≠ "" := by
  intro tells
  have parsed : Address.parse namedClient.target = .ok namedAddress := by with_unfolding_all rfl
  have sendable : namedClient.Sendable [] namedAddress.reached := by
    refine ⟨?_, by simp, by simp [namedClient, given], ascii_serviceHost⟩
    simp [HasForeignToken, namedClient, given]
  have sent := mem_check_fst_of_sendable (fun _ => .timedOut) parsed sendable
  have authorised : (Table.find? "authorization"
      (namedClient.requestTo [] namedAddress.reached).headers).isSome := by
    simp only [requestTo, find?_authorization_headers, isSome_authorization?_iff]
    exact .inr (by decide +kernel)
  obtain ⟨token, named, -⟩ := (tells _ _ _ _ parsed (by decide) _ sent).mp authorised
  cases named

end Client

end GuardedInstall.Analysis
