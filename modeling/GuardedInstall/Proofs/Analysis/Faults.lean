import GuardedInstall.Analysis.Client
import GuardedInstall.Proofs.Stepwise

/-!
# Faults of asking the analysis service

A client comes to an evaluation or reports why there is none. Three things are not
reported: an address that is none, a sender that breaks, and a reply whose count of
waiting packages is an infinite number. The last one is in the hands of the service: no
other reply is at fault, whatever its bytes.
-/

namespace GuardedInstall.Analysis

open GuardedInstall.Json (Value)
open GuardedInstall.Lockfile (Dependency)
open GuardedInstall.Stepwise

theorem isNaN_eq_false_of_isInf {amount : Float} (infinite : amount.isInf = true) :
    amount.isNaN = false := by
  change amount.toModel.unpack.isInf = true at infinite
  change amount.toModel.unpack.isNaN = false
  cases parts : amount.toModel.unpack with
  | infinity sign => rfl
  | _ =>
      rw [parts] at infinite
      cases infinite

/-! ## Decoding a reply -/

namespace Reply

variable {fields : List (String × Value)}

theorem avoids_wrong {α : Type} (error : ReplyError) :
    Avoids .infiniteCount (wrong error : Decode α) :=
  .of_ne (by simp)

/-! Every part of a reply but the count is right, or wrong in its shape. -/

theorem avoids_field? (name : String) (value : Value) :
    Avoids .infiniteCount (field? name value) := by
  cases value with
  | object fields => exact .ok _
  | _ => exact avoids_wrong _

theorem avoids_field (name : String) (value : Value) :
    Avoids .infiniteCount (field name value) := by
  cases value with
  | object fields =>
      dsimp only [field]
      split
      · exact .ok _
      · exact avoids_wrong _
  | _ => exact avoids_wrong _

theorem avoids_members (value : Value) : Avoids .infiniteCount (members value) := by
  cases value with
  | list items => exact .ok _
  | object fields => exact .ok _
  | text value => exact .ok _
  | _ => exact avoids_wrong _

theorem avoids_severity (value : Value) : Avoids .infiniteCount (severity value) := by
  dsimp only [severity]
  split
  · exact .ok _
  · exact avoids_wrong _

theorem avoids_rejection (value : Value) : Avoids .infiniteCount (rejection value) := by
  refine .bind (avoids_field? _ _) fun source => ?_
  refine .bind (avoids_field _ _) fun title => ?_
  refine .bind (avoids_field? _ _) fun suppressed => ?_
  refine .bind (avoids_field? _ _) fun named => ?_
  refine .bind (avoids_severity _) fun severity => ?_
  exact .bind (avoids_field? _ _) fun domain => .pure _

theorem avoids_finding (value : Value) : Avoids .infiniteCount (finding value) := by
  refine .bind (avoids_field _ _) fun registry => ?_
  refine .bind (avoids_field _ _) fun name => ?_
  refine .bind (avoids_field _ _) fun version => ?_
  refine .bind (avoids_field? _ _) fun listed => ?_
  refine .bind (avoids_members _) fun rejections => ?_
  exact .bind (.mapM avoids_rejection _) fun decoded => .pure _

/-- The count is without bound exactly if it is an infinite number. A text that writes
infinity is no integer and so is wrong in its shape. -/
theorem count_eq_infiniteCount_iff {value : Value} :
    count value = .error .infiniteCount ↔ ∃ amount, value = .real amount ∧ amount.isInf = true := by
  cases value with
  | real amount =>
      simp only [count, Value.real.injEq, exists_eq_left']
      by_cases infinite : amount.isInf = true
      · have defined : ¬ amount.isNaN = true := by
          rw [isNaN_eq_false_of_isInf infinite]
          exact Bool.false_ne_true
        rw [if_neg defined, if_pos infinite]
        exact iff_of_true rfl infinite
      · refine iff_of_false ?_ infinite
        rw [if_neg infinite]
        split
        · exact avoids_wrong _
        · exact Avoids.ok _
  | text text =>
      cases written : Integer.ofText text <;> simp [count, written, wrong]
  | _ => simp [count, wrong]

/-- The findings in the fields of a reply. -/
def findingsOf (fields : List (String × Value)) : Decode (List Finding) := do
  let packages ← members ((Table.find? "dependencies" fields).getD (.list []))
  packages.mapM finding

/-- The fields of a reply that count the waiting packages by an infinite number, behind
findings that are in order. -/
structure CountsWithoutBound (fields : List (String × Value)) : Prop where
  found : Succeeds (findingsOf fields)
  counted : ∃ amount, Table.find? "incomplete_packages_count" fields = some (.real amount) ∧
    amount.isInf = true

theorem avoids_findingsOf (fields : List (String × Value)) :
    Avoids .infiniteCount (findingsOf fields) :=
  .bind (avoids_members _) fun _ => .mapM avoids_finding _

/-- The count in the fields of a reply. -/
def countOf (fields : List (String × Value)) : Decode Int :=
  count ((Table.find? "incomplete_packages_count" fields).getD (.integer 0))

/-- The evaluation in the fields of a reply with known findings and a known count. -/
def completed (fields : List (String × Value)) (findings : List Finding) (amount : Int) :
    Decode Evaluation := do
  let isFailure := (← field "is_failure" (.object fields)).isGiven
  pure
    { isFailure, incompleteCount := amount, jobLink := given (Table.find? "job_link" fields)
      findings }

theorem avoids_completed (fields : List (String × Value)) (findings : List Finding)
    (amount : Int) : Avoids .infiniteCount (completed fields findings amount) :=
  .bind (avoids_field _ _) fun _ => .pure _

theorem countOf_eq_infiniteCount_iff :
    countOf fields = .error .infiniteCount ↔
      ∃ amount, Table.find? "incomplete_packages_count" fields = some (.real amount) ∧
        amount.isInf = true := by
  rw [countOf, count_eq_infiniteCount_iff]
  cases Table.find? "incomplete_packages_count" fields <;> simp

/-- The findings come before the count, and the count before what is left. -/
theorem evaluation_object (fields : List (String × Value)) :
    evaluation (.object fields) =
      findingsOf fields >>= fun findings =>
        countOf fields >>= fun amount => completed fields findings amount := by
  simp only [evaluation, findingsOf, field?, bind_assoc]
  rfl

/-- A reply is at fault exactly for its count, and only if nothing is wrong before it. -/
theorem evaluation_eq_infiniteCount_iff :
    evaluation (.object fields) = .error .infiniteCount ↔ CountsWithoutBound fields := by
  rw [evaluation_object, (avoids_findingsOf fields).bind_eq_error_iff]
  constructor
  · rintro ⟨findings, found, failed⟩
    rcases bind_eq_error_iff.mp failed with infinite | ⟨amount, -, later⟩
    · exact ⟨⟨findings, found⟩, countOf_eq_infiniteCount_iff.mp infinite⟩
    · exact absurd later (avoids_completed fields findings amount)
  · rintro ⟨⟨findings, found⟩, counted⟩
    have infinite := countOf_eq_infiniteCount_iff.mpr counted
    exact ⟨findings, found, bind_eq_error_iff.mpr (.inl infinite)⟩

end Reply

/-! ## One request and its reply -/

namespace Client

/-- A body is read as an object of fields. -/
def ReadsAs (body : File.Bytes) (fields : List (String × Value)) : Prop :=
  ∃ text, Text.Encoding.decode body = some text ∧ Json.read text = .ok (.object fields)

/-- A token with a character outside of ASCII. It stops the request before all else. -/
def HasForeignToken (client : Client) : Prop :=
  ((given client.token).any fun token => token.toList.any fun c => 0x80 ≤ c.toNat) = true

/-- What makes a request, and what comes of it, a fault. -/
inductive Faulty (client : Client) (send : Request → Response) (dependencies : List Dependency) :
    Fault → Prop where
  /-- The address is none, and nothing before it stops the request. -/
  | address {error : AddressError} (sendable : ¬ client.HasForeignToken)
      (unusable : Address.parse client.target = .error error) (whole : error ≠ .half) :
      Faulty client send dependencies (.address error)
  /-- The sender breaks. -/
  | broken {request : Request} {detail : String}
      (built : client.request dependencies = .ok request)
      (breaks : send request = .broken detail) :
      Faulty client send dependencies (.broken detail)
  /-- A reply of success counts the waiting packages by an infinite number. -/
  | infiniteCount {request : Request} {status : Int} {body : File.Bytes}
      {fields : List (String × Value)}
      (built : client.request dependencies = .ok request)
      (absolute : request.address.isAbsolute = true)
      (answered : send request = .received status body) (succeeded : isSuccess status = true)
      (reads : ReadsAs body fields) (infinite : Reply.CountsWithoutBound fields) :
      Faulty client send dependencies .infiniteCount

variable {client : Client} {send : Request → Response} {dependencies : List Dependency}
  {fault : Fault}

theorem request_of_foreignToken (foreign : client.HasForeignToken) :
    client.request dependencies = .error (.reported .notADocument) := by
  unfold HasForeignToken at foreign
  simp only [request, foreign, if_true]
  rfl

theorem request_of_unusable {error : AddressError} (sendable : ¬ client.HasForeignToken)
    (unusable : Address.parse client.target = .error error) :
    client.request dependencies =
      .error (if error = .half then .reported .notADocument else .fault (.address error)) := by
  unfold HasForeignToken at sendable
  simp only [request, sendable, unusable]
  cases error <;> rfl

theorem request_of_faulty_address {error : AddressError} (sendable : ¬ client.HasForeignToken)
    (unusable : Address.parse client.target = .error error) (whole : error ≠ .half) :
    client.request dependencies = .error (.fault (.address error)) := by
  rw [request_of_unusable sendable unusable, if_neg whole]

/-- An address that can be read leaves nothing that is not reported. -/
theorem request_ne_fault_of_parsed {address : Address}
    (parsed : Address.parse client.target = .ok address) :
    client.request dependencies ≠ .error (.fault fault) := by
  by_cases foreign : client.HasForeignToken
  · simp [request_of_foreignToken foreign]
  · unfold HasForeignToken at foreign
    simp only [request, foreign, parsed]
    -- What is left are two checks of an address that is absolute or was made to start at the top.
    generalize (if address.isAbsolute = true then address else address.fromTop) = reached
    rw [if_neg Bool.false_ne_true]
    split
    · intro stopped
      cases stopped
    · intro built
      cases built

theorem request_eq_fault_iff :
    client.request dependencies = .error (.fault fault) ↔ ¬ client.HasForeignToken ∧
      ∃ error, Address.parse client.target = .error error ∧ error ≠ .half ∧
        fault = .address error := by
  by_cases foreign : client.HasForeignToken
  · simp [request_of_foreignToken foreign, foreign]
  · cases parsed : Address.parse client.target with
    | ok address => simp [request_ne_fault_of_parsed parsed]
    | error error =>
        rw [request_of_unusable foreign parsed]
        by_cases half : error = .half
        · simp [half]
        · simp [half, foreign, eq_comm]

theorem decode_of_readsAs {body : File.Bytes} {fields : List (String × Value)}
    (reads : ReadsAs body fields) :
    decode body = match Reply.evaluation (.object fields) with
      | .ok evaluation => .ok evaluation
      | .error (.shape error) => .error (.reported (.reply error))
      | .error .infiniteCount => .error (.fault .infiniteCount) := by
  obtain ⟨text, decoded, read⟩ := reads
  unfold decode
  cases evaluated : Reply.evaluation (.object fields) with
  | ok evaluation => simp only [decoded, read, evaluated]
  | error cause => cases cause <;> simp only [decoded, read, evaluated]

/-- A body that is no object of fields is reported. -/
theorem decode_ne_fault_of_unread {body : File.Bytes} (unread : ∀ fields, ¬ ReadsAs body fields) :
    decode body ≠ .error (.fault fault) := by
  intro failed
  unfold decode at failed
  split at failed
  · cases failed
  · rename_i text decoded
    split at failed
    · cases failed
    · cases failed
    · rename_i fields read
      exact unread fields ⟨text, decoded, read⟩
    · cases failed

theorem decode_eq_fault_iff {body : File.Bytes} :
    decode body = .error (.fault fault) ↔
      fault = .infiniteCount ∧ ∃ fields, ReadsAs body fields ∧ Reply.CountsWithoutBound fields := by
  constructor
  · intro failed
    by_cases reads : ∃ fields, ReadsAs body fields
    · obtain ⟨fields, reads⟩ := reads
      rw [decode_of_readsAs reads] at failed
      cases evaluated : Reply.evaluation (.object fields) with
      | ok evaluation => simp [evaluated] at failed
      | error cause =>
          cases cause with
          | shape error => simp [evaluated] at failed
          | infiniteCount =>
              have infinite := Reply.evaluation_eq_infiniteCount_iff.mp evaluated
              exact ⟨by simpa [evaluated] using failed.symm, fields, reads, infinite⟩
    · exact absurd failed (decode_ne_fault_of_unread (not_exists.mp reads))
  · rintro ⟨rfl, fields, reads, infinite⟩
    rw [decode_of_readsAs reads, Reply.evaluation_eq_infiniteCount_iff.mpr infinite]

/-- A response to a request is at fault as a broken sender or as an infinite count. -/
theorem conclude_eq_fault_iff {address : Address} {response : Response} :
    client.conclude address response = .error (.fault fault) ↔
      (∃ detail, response = .broken detail ∧ fault = .broken detail) ∨
        ∃ status body fields, response = .received status body ∧ address.isAbsolute = true ∧
          isSuccess status = true ∧ ReadsAs body fields ∧ Reply.CountsWithoutBound fields ∧
            fault = .infiniteCount := by
  cases response with
  | timedOut => simp [conclude]
  | unreachable detail => simp [conclude]
  | broken detail => simp [conclude, @eq_comm _ fault]
  | received status body =>
      by_cases absolute : address.isAbsolute = true
      · by_cases succeeded : isSuccess status = true
        · have concluded : client.conclude address (.received status body) = decode body := by
            simp [conclude, absolute, succeeded]
          rw [concluded, decode_eq_fault_iff]
          constructor
          · rintro ⟨rfl, fields, reads, infinite⟩
            exact .inr ⟨status, body, fields, rfl, absolute, succeeded, reads, infinite, rfl⟩
          · rintro (⟨detail, impossible, -⟩ | ⟨_, _, fields, same, -, -, reads, infinite, told⟩)
            · cases impossible
            · cases same
              exact ⟨told, fields, reads, infinite⟩
        · simp [conclude, absolute, succeeded]
      · simp [conclude, absolute]

/-- What a client comes to is what its request comes to, and else what the response means. -/
theorem check_snd (client : Client) (send : Request → Response)
    (dependencies : List Dependency) :
    (client.check send dependencies).2 =
      client.request dependencies >>= fun request =>
        client.conclude request.address (send request) := by
  unfold check
  cases client.request dependencies with
  | error failure => rfl
  | ok request => rfl

/-- All that is not reported, whatever the service sends and however it is sent. -/
theorem check_eq_fault_iff (client : Client) (send : Request → Response)
    (dependencies : List Dependency) (fault : Fault) :
    (client.check send dependencies).2 = .error (.fault fault) ↔
      Faulty client send dependencies fault := by
  rw [check_snd, bind_eq_error_iff]
  constructor
  · rintro (failed | ⟨request, built, failed⟩)
    · obtain ⟨sendable, error, unusable, whole, rfl⟩ := request_eq_fault_iff.mp failed
      exact .address sendable unusable whole
    · rcases conclude_eq_fault_iff.mp failed with ⟨detail, breaks, rfl⟩ |
        ⟨status, body, fields, answered, absolute, succeeded, reads, infinite, rfl⟩
      · exact .broken built breaks
      · exact .infiniteCount built absolute answered succeeded reads infinite
  · intro faulty
    cases faulty with
    | address sendable unusable whole =>
        exact .inl (request_of_faulty_address sendable unusable whole)
    | broken built breaks =>
        exact .inr ⟨_, built, conclude_eq_fault_iff.mpr (.inl ⟨_, breaks, rfl⟩)⟩
    | infiniteCount built absolute answered succeeded reads infinite =>
        exact .inr ⟨_, built, conclude_eq_fault_iff.mpr
          (.inr ⟨_, _, _, answered, absolute, succeeded, reads, infinite, rfl⟩)⟩

/-! ## A reply that is not reported -/

/-- The fault that a result is. -/
def fault? : Except Failure Evaluation → Option Fault
  | .error (.fault fault) => some fault
  | _ => none

theorem fault?_eq_some_iff {result : Except Failure Evaluation} :
    fault? result = some fault ↔ result = .error (.fault fault) := by
  rcases result with (error | fault) | evaluation <;> simp [fault?]

/-- A client of a service on the same machine. -/
def localClient : Client where
  baseUrl := "http://localhost"
  token := none
  timeLimit := .unlimited
  project := none

/-- A reply with infinitely many packages waiting. -/
def endlessReply : Response :=
  .received 200 "\x7b\"is_failure\":false,\"incomplete_packages_count\":Infinity\x7d".toUTF8

theorem check_endlessReply :
    (localClient.check (fun _ => endlessReply) []).2 = .error (.fault .infiniteCount) := by
  -- The count is a floating-point number, which only the kernel evaluates.
  rw [← fault?_eq_some_iff]
  decide +kernel

/-- At an address that can be used and with a sender that never breaks, a reply may be no
evaluation and yet not be reported. -/
theorem not_forall_reported :
    ¬ ∀ (client : Client) (send : Request → Response) (dependencies : List Dependency)
      (failure : Failure),
      (∃ address, Address.parse client.target = .ok address) →
      (∀ request detail, send request ≠ .broken detail) →
      (client.check send dependencies).2 = .error failure →
      ∃ error, failure = .reported error := by
  intro reports
  have usable : ∃ address, Address.parse localClient.target = .ok address :=
    ⟨_, by with_unfolding_all rfl⟩
  obtain ⟨error, reported⟩ := reports _ _ _ _ usable (by simp [endlessReply]) check_endlessReply
  cases reported

end Client

end GuardedInstall.Analysis
