import LinkContract.Process.Operators
import LinkContract.Proofs.Allocation.Rounding
import Mathlib.Data.List.Forall2

/-!
# Runs of the allocation operators

A host may answer a request with any address or with null. Whatever it answers, one call of an
operator either returns (`Serves`) or raises a trap (`Fails`), and both say what the host was
called for meanwhile. `Runs` strings such calls together up to the first that fails.

`runs_run` is the main step: a process runs its calls in just this way. What a host sees in a
run and how the run ends then follow by induction on `Runs`.
-/
namespace LinkContract

open Allocation

abbrev Invocation := EntryPoint × Arguments

/-- The alignment operand of an operator that takes one. -/
def Arguments.operand (arguments : Arguments) (aligned : Bool) : Option Word :=
  if aligned then some arguments.alignment else none

namespace HostCall

def request? : HostCall → Option Request
  | .malloc size => some ⟨size, none⟩
  | .alignedAlloc alignment size => some ⟨size, some alignment⟩
  | .free _ => none

def freed? : HostCall → Option Word
  | .free address => some address
  | _ => none

theorem request?_ofRequest (request : Request) : (ofRequest request).request? = some request := by
  obtain ⟨size, _ | alignment⟩ := request <;> rfl

theorem freed?_ofRequest (request : Request) : (ofRequest request).freed? = none := by
  obtain ⟨size, _ | alignment⟩ := request <;> rfl

end HostCall

namespace Process

/-! ### One call -/

/-- The call returns the answer. `asked` is what the host is called for meanwhile, and `issued`
requests were made before. -/
inductive Serves (host : Host) (issued : Nat) : Invocation → List HostCall → Answer → Prop where
  | new (array aligned : Bool) (arguments : Arguments) (request : Request)
      (covers : request.Covers arguments.size (arguments.operand aligned))
      (given : host.answer issued request ≠ 0) :
      Serves host issued (.new array aligned, arguments) [.ofRequest request]
        (.address (host.answer issued request))
  | delete (array sized aligned : Bool) (arguments : Arguments) (held : arguments.address ≠ 0) :
      Serves host issued (.delete array sized aligned, arguments) [.free arguments.address] .nothing
  | deleteNull (array sized aligned : Bool) (arguments : Arguments)
      (null : arguments.address = 0) :
      Serves host issued (.delete array sized aligned, arguments) [] .nothing

/-- The call raises the trap: its operands call for no request, or the host has no memory for
the request. -/
inductive Fails (host : Host) (issued : Nat) : Invocation → List HostCall → Trap → Prop where
  | invalidAlignment (array : Bool) (arguments : Arguments)
      (odd : ¬ arguments.alignment.toNat.isPowerOfTwo) :
      Fails host issued (.new array true, arguments) [] .invalidAlignment
  | sizeOverflow (array : Bool) (arguments : Arguments)
      (power : arguments.alignment.toNat.isPowerOfTwo)
      (beyond : ∀ multiple ∈ roomyMultiples arguments.alignment.toNat (max arguments.size.toNat 1),
        UInt64.size ≤ multiple) :
      Fails host issued (.new array true, arguments) [] .allocationFailure
  | hostExhausted (array aligned : Bool) (arguments : Arguments) (request : Request)
      (covers : request.Covers arguments.size (arguments.operand aligned))
      (null : host.answer issued request = 0) :
      Fails host issued (.new array aligned, arguments) [.ofRequest request] .allocationFailure

/-- How many requests a call adds to those of the process when it returns. -/
def requestCount (call : Invocation) : Nat := if call.1.isNew then 1 else 0

theorem hostCalls_raise (process : Process) (trap : Trap) :
    ∃ after, process.raise trap = .trapped trap after ∧ after.hostCalls = process.hostCalls :=
  ⟨_, process.raise_eq trap, rfl⟩

theorem fails_of_refuses (host : Host) (issued : Nat) (array aligned : Bool)
    (arguments : Arguments) (refusal : Refusal)
    (refuses : Refuses arguments.size (arguments.operand aligned) refusal) :
    Fails host issued (.new array aligned, arguments) [] (.ofRefusal refusal) := by
  cases aligned with
  | false => cases refuses
  | true =>
    rw [Arguments.operand, if_pos rfl] at refuses
    cases refuses with
    | invalidAlignment _ odd => exact .invalidAlignment array arguments odd
    | sizeOverflow _ power beyond => exact .sizeOverflow array arguments power beyond

theorem call_new (host : Host) (process : Process) (array aligned : Bool)
    (arguments : Arguments) :
    (∃ asked answer after,
      process.call host (.new array aligned) arguments = .returned answer after
        ∧ Serves host process.requests (.new array aligned, arguments) asked answer
        ∧ after.hostCalls = process.hostCalls ++ asked ∧ after.requests = process.requests + 1)
    ∨ ∃ asked trap after, process.call host (.new array aligned) arguments = .trapped trap after
        ∧ Fails host process.requests (.new array aligned, arguments) asked trap
        ∧ after.hostCalls = process.hostCalls ++ asked := by
  have operand : (if aligned then some arguments.alignment else none)
      = arguments.operand aligned := rfl
  cases outcome : requestFor arguments.size (arguments.operand aligned) with
  | error refusal =>
    -- the host is not called, so nothing is added
    have refuses := (requestFor_eq_error_iff _ _ _).mp outcome
    obtain ⟨after, raised, kept⟩ := process.hostCalls_raise (.ofRefusal refusal)
    refine Or.inr ⟨[], .ofRefusal refusal, after, ?_,
      fails_of_refuses host _ array aligned arguments refusal refuses, by simp [kept]⟩
    simp only [call, operand, tryAllocate, outcome, raised]
  | ok request =>
    have covers := (requestFor_eq_ok_iff _ _ _).mp outcome
    by_cases null : host.answer process.requests request = 0
    · -- the process that raises the trap has recorded the request already
      let asking : Process :=
        { process.record (.ofRequest request) with requests := process.requests + 1 }
      obtain ⟨after, raised, kept⟩ := asking.hostCalls_raise .allocationFailure
      refine Or.inr ⟨[.ofRequest request], .allocationFailure, after, ?_,
        .hostExhausted array aligned arguments request covers null, kept⟩
      simp only [call, operand, tryAllocate, outcome, ask, Request.checkReturned, null, if_true,
        Trap.ofRefusal]
      exact raised
    · refine Or.inl ⟨[.ofRequest request], .address (host.answer process.requests request),
        { process.record (.ofRequest request) with requests := process.requests + 1 }, ?_,
        .new array aligned arguments request covers null, rfl, rfl⟩
      simp only [call, operand, tryAllocate, outcome, ask, Request.checkReturned, null, if_false]

theorem call_delete (host : Host) (process : Process) (array sized aligned : Bool)
    (arguments : Arguments) :
    ∃ asked after, process.call host (.delete array sized aligned) arguments
        = .returned .nothing after
      ∧ Serves host process.requests (.delete array sized aligned, arguments) asked .nothing
      ∧ after.hostCalls = process.hostCalls ++ asked ∧ after.requests = process.requests := by
  by_cases null : arguments.address = 0
  · refine ⟨[], process, ?_, .deleteNull array sized aligned arguments null, by simp, rfl⟩
    simp [call, release, releaseIsNoop, null]
  · refine ⟨[.free arguments.address], process.record (.free arguments.address), ?_,
      .delete array sized aligned arguments null, rfl, rfl⟩
    simp [call, release, releaseIsNoop, null]

/-- One call of an operator returns or traps, and the host sees what it asks for. -/
theorem call_operator (host : Host) (process : Process) (call : Invocation)
    (operator : call.1.category = .allocation) :
    (∃ asked answer after, process.call host call.1 call.2 = .returned answer after
        ∧ Serves host process.requests call asked answer
        ∧ after.hostCalls = process.hostCalls ++ asked
        ∧ after.requests = process.requests + requestCount call)
    ∨ ∃ asked trap after, process.call host call.1 call.2 = .trapped trap after
        ∧ Fails host process.requests call asked trap
        ∧ after.hostCalls = process.hostCalls ++ asked := by
  obtain ⟨entry, arguments⟩ := call
  cases entry with
  | trap point => cases operator
  | new array aligned => exact process.call_new host array aligned arguments
  | delete array sized aligned =>
    obtain ⟨asked, after, returned, serves, calls, requests⟩ :=
      process.call_delete host array sized aligned arguments
    exact Or.inl ⟨asked, .nothing, after, returned, serves, calls, requests⟩

/-! ### Several calls -/

/-- The calls are served one after the other, until one fails or none is left. `made` is what the
host is called for in all. -/
inductive Runs (host : Host) :
    Nat → List Invocation → List HostCall → List Answer → Option Trap → Prop where
  | done (issued : Nat) : Runs host issued [] [] [] none
  | fail {issued : Nat} {call : Invocation} {asked : List HostCall} {trap : Trap}
      (fails : Fails host issued call asked trap) (later : List Invocation) :
      Runs host issued (call :: later) asked [] (some trap)
  | serve {issued : Nat} {call : Invocation} {asked made : List HostCall} {answer : Answer}
      {later : List Invocation} {answers : List Answer} {trap : Option Trap}
      (serves : Serves host issued call asked answer)
      (rest : Runs host (issued + requestCount call) later made answers trap) :
      Runs host issued (call :: later) (asked ++ made) (answer :: answers) trap

/-- A process runs calls of operators in this way, from any state. -/
theorem runs_run (host : Host) (process : Process) (calls : List Invocation)
    (operators : ∀ call ∈ calls, call.1.category = .allocation) :
    ∃ made, (process.run host calls).final.hostCalls = process.hostCalls ++ made
      ∧ Runs host process.requests calls made (process.run host calls).answers
        (process.run host calls).trap := by
  -- the next call finds the process that the last one left, so the state varies
  induction calls generalizing process with
  | nil => exact ⟨[], by simp [run], .done process.requests⟩
  | cons call later ih =>
    rw [List.forall_mem_cons] at operators
    rcases process.call_operator host call operators.1 with
      ⟨asked, answer, after, returned, serves, calls, requests⟩ | ⟨asked, trap, after, trapped,
        fails, calls⟩
    · obtain ⟨made, sum, rest⟩ := ih after operators.2
      refine ⟨asked ++ made, ?_, ?_⟩
      · rw [run, returned]
        simp only
        rw [sum, calls, List.append_assoc]
      · rw [run, returned]
        rw [requests] at rest
        exact .serve serves rest
    · refine ⟨asked, ?_, ?_⟩
      · rw [run, trapped]
        exact calls
      · rw [run, trapped]
        exact .fail fails later

/-! ### What a run comes to -/

variable {host : Host} {issued : Nat} {calls : List Invocation} {made : List HostCall}
  {answers : List Answer} {trap : Option Trap}

/-- The request is the one that a call of `new` has to make. -/
def Suits (call : Invocation) (request : Request) : Prop :=
  request.Covers call.2.size (call.2.operand call.1.takesAlignment)

/-- No call fails while the others are served. -/
def NoneFails (host : Host) (issued : Nat) (calls : List Invocation) : Prop :=
  ∀ earlier call later, calls = earlier ++ call :: later →
    ∀ asked trap, ¬ Fails host (issued + earlier.countP (·.1.isNew)) call asked trap

theorem countP_isNew_cons (call : Invocation) (later : List Invocation) :
    (call :: later).countP (·.1.isNew) = requestCount call + later.countP (·.1.isNew) := by
  rw [List.countP_cons, Nat.add_comm, requestCount]

theorem not_fails_of_serves {call : Invocation} {asked : List HostCall} {answer : Answer}
    (serves : Serves host issued call asked answer) (other : List HostCall) (cause : Trap) :
    ¬ Fails host issued call other cause := by
  intro fails
  cases serves with
  | new array aligned arguments request covers given =>
    cases fails with
    | invalidAlignment _ _ odd =>
      exact not_refuses_of_covers _ _ request covers _ (.invalidAlignment _ odd)
    | sizeOverflow _ _ power beyond =>
      exact not_refuses_of_covers _ _ request covers _ (.sizeOverflow _ power beyond)
    | hostExhausted _ _ _ same also null =>
      -- both times the host was asked for the one request that covers the operands
      rw [covers_unique _ _ request same covers also] at given
      exact given null
  | delete => cases fails
  | deleteNull => cases fails

theorem noneFails_cons {call : Invocation} {asked : List HostCall} {answer : Answer}
    {later : List Invocation} (serves : Serves host issued call asked answer)
    (rest : NoneFails host (issued + requestCount call) later) :
    NoneFails host issued (call :: later) := by
  intro earlier other others same
  cases earlier with
  | nil =>
    cases same
    exact not_fails_of_serves serves
  | cons first before =>
    cases same
    have below := rest before other others rfl
    rwa [Nat.add_assoc, ← countP_isNew_cons] at below

/-- The requests that reach the host are those of the first calls of `new`, in their order. -/
theorem Runs.requests (runs : Runs host issued calls made answers trap) :
    List.Forall₂ Suits
      ((calls.filter (·.1.isNew)).take (made.filterMap HostCall.request?).length)
      (made.filterMap HostCall.request?) := by
  induction runs with
  | done => exact .nil
  | fail fails later =>
    cases fails with
    | invalidAlignment => exact .nil
    | sizeOverflow => exact .nil
    | hostExhausted array aligned arguments request covers =>
      simpa [EntryPoint.isNew, HostCall.request?_ofRequest] using
        (show Suits (.new array aligned, arguments) request from covers)
  | serve serves rest ih =>
    cases serves with
    | new array aligned arguments request covers =>
      rw [List.cons_append, List.nil_append,
        List.filterMap_cons_some (HostCall.request?_ofRequest _)]
      exact .cons covers ih
    | delete => exact ih
    | deleteNull => exact ih

theorem Runs.suits_of_mem (runs : Runs host issued calls made answers trap) (call : HostCall)
    (request : Request) (asks : call.request? = some request) (inside : call ∈ made) :
    ∃ cause, Suits cause request := by
  have member : request ∈ made.filterMap HostCall.request? :=
    List.mem_filterMap.mpr ⟨call, inside, asks⟩
  obtain ⟨position, bound, same⟩ := List.mem_iff_getElem.mp member
  have paired := List.forall₂_iff_get.mp runs.requests
  have suits := paired.2 position (by rw [paired.1]; exact bound) bound
  rw [List.get_eq_getElem, List.get_eq_getElem, same] at suits
  exact ⟨_, suits⟩

theorem Runs.returned (runs : Runs host issued calls made answers trap)
    (earlier : List Invocation) (array aligned : Bool) (arguments : Arguments)
    (later : List Invocation)
    (same : calls = earlier ++ (.new array aligned, arguments) :: later)
    (reached : earlier.length < answers.length) :
    ∃ request, Suits (.new array aligned, arguments) request
      ∧ HostCall.ofRequest request ∈ made
      ∧ host.answer (issued + earlier.countP (·.1.isNew)) request ≠ 0
      ∧ answers[earlier.length]?
        = some (.address (host.answer (issued + earlier.countP (·.1.isNew)) request)) := by
  induction runs generalizing earlier with
  | done => cases reached
  | fail => cases reached
  | serve serves rest ih =>
    cases earlier with
    | nil =>
      cases same
      cases serves with
      | new _ _ _ request covers given =>
        exact ⟨request, covers, List.mem_cons_self, given, rfl⟩
    | cons first before =>
      cases same
      obtain ⟨request, suits, inside, given, answer⟩ :=
        ih before rfl (Nat.lt_of_succ_lt_succ reached)
      -- the first call counts among the earlier ones here, and among those issued there
      rw [Nat.add_assoc, ← countP_isNew_cons] at given answer
      exact ⟨request, suits, List.mem_append_right _ inside, given, answer⟩

/-- Either all calls are served, or they are up to one that fails. -/
theorem Runs.ends (runs : Runs host issued calls made answers trap) :
    (trap = none ∧ answers.length = calls.length ∧ NoneFails host issued calls)
    ∨ ∃ earlier call later before asked cause, calls = earlier ++ call :: later
      ∧ NoneFails host issued earlier
      ∧ Fails host (issued + earlier.countP (·.1.isNew)) call asked cause
      ∧ trap = some cause ∧ answers.length = earlier.length ∧ made = before ++ asked
      ∧ (before.filterMap HostCall.request?).length = earlier.countP (·.1.isNew) := by
  induction runs with
  | done =>
    refine Or.inl ⟨rfl, rfl, fun earlier call later same => ?_⟩
    cases earlier <;> cases same
  | fail fails later =>
    refine Or.inr ⟨[], _, later, [], _, _, rfl, fun earlier call later same => ?_, fails, rfl, rfl,
      rfl, rfl⟩
    cases earlier <;> cases same
  | @serve issued call asked _ _ _ _ _ serves rest ih =>
    have count : (asked.filterMap HostCall.request?).length = requestCount call := by
      cases serves with
      | new _ _ _ request => simp [HostCall.request?_ofRequest, requestCount, EntryPoint.isNew]
      | delete => rfl
      | deleteNull => rfl
    rcases ih with ⟨completed, length, clear⟩ | ⟨earlier, failing, others, before, last, cause, same,
      clear, fails, stopped, length, sum, requests⟩
    · exact Or.inl ⟨completed, by simp [length], noneFails_cons serves clear⟩
    · refine Or.inr ⟨call :: earlier, failing, others, asked ++ before, last, cause,
        by simp [same], noneFails_cons serves clear, ?_, stopped, by simp [length], by simp [sum], ?_⟩
      · rwa [countP_isNew_cons, ← Nat.add_assoc]
      · rw [List.filterMap_append, List.length_append, count, requests, countP_isNew_cons]

/-- The host gets back every address but null, as often as it is given to `delete`. -/
theorem Runs.freed (runs : Runs host issued calls made answers trap) :
    made.filterMap HostCall.freed?
      = (((calls.take answers.length).filter (·.1.isDelete)).map (·.2.address)).filter (· ≠ 0) := by
  induction runs with
  | done => rfl
  | fail fails later =>
    cases fails with
    | invalidAlignment => rfl
    | sizeOverflow => rfl
    | hostExhausted _ _ _ request => simp [HostCall.freed?_ofRequest]
  | serve serves rest ih =>
    rw [List.filterMap_append, ih, List.length_cons, List.take_succ_cons]
    cases serves with
    | new _ _ _ request => simp [HostCall.freed?_ofRequest, EntryPoint.isDelete]
    | delete _ _ _ _ held => simp [HostCall.freed?, EntryPoint.isDelete, held]
    | deleteNull _ _ _ _ null => simp [EntryPoint.isDelete, null]

/-- What the host sees of any run of operators, and how the run ends, whatever the host answers.
Its calls are those of plain requests, those of aligned requests and the releases; each `new` that
returns hands back the host's own answer; and a trap comes at the first call that fails. -/
theorem operators_on_any_host (host : Host) (process : Process) (calls : List Invocation)
    (operators : ∀ call ∈ calls, call.1.category = .allocation) :
    let run := process.run host calls
    ∃ made, run.final.hostCalls = process.hostCalls ++ made
      ∧ (∀ size, HostCall.malloc size ∈ made → 1 ≤ size.toNat)
      ∧ (∀ alignment size, HostCall.alignedAlloc alignment size ∈ made →
        alignment.toNat.isPowerOfTwo ∧ 1 ≤ size.toNat ∧ alignment.toNat ∣ size.toNat)
      ∧ List.Forall₂
        (fun call request => Suits call request ∧ call.2.size.toNat ≤ request.size.toNat)
        ((calls.filter (·.1.isNew)).take (made.filterMap HostCall.request?).length)
        (made.filterMap HostCall.request?)
      ∧ (∀ earlier array aligned arguments later,
        calls = earlier ++ (.new array aligned, arguments) :: later →
        earlier.length < run.answers.length →
        ∃ request, Suits (.new array aligned, arguments) request
          ∧ HostCall.ofRequest request ∈ made
          ∧ host.answer (process.requests + earlier.countP (·.1.isNew)) request ≠ 0
          ∧ run.answers[earlier.length]?
            = some (.address (host.answer (process.requests + earlier.countP (·.1.isNew)) request)))
      ∧ ((run.trap = none ∧ run.answers.length = calls.length
          ∧ NoneFails host process.requests calls)
        ∨ ∃ earlier call later before asked cause, calls = earlier ++ call :: later
          ∧ NoneFails host process.requests earlier
          ∧ Fails host (process.requests + earlier.countP (·.1.isNew)) call asked cause
          ∧ run.trap = some cause ∧ run.answers.length = earlier.length ∧ made = before ++ asked
          ∧ (before.filterMap HostCall.request?).length = earlier.countP (·.1.isNew))
      ∧ made.filterMap HostCall.freed?
        = (((calls.take run.answers.length).filter (·.1.isDelete)).map (·.2.address)).filter
          (· ≠ 0) := by
  intro run
  obtain ⟨made, sum, runs⟩ := process.runs_run host calls operators
  refine ⟨made, sum, ?_, ?_, ?_, runs.returned, runs.ends, runs.freed⟩
  · intro size inside
    obtain ⟨call, suits⟩ := runs.suits_of_mem _ ⟨size, none⟩ rfl inside
    exact suits.room.2
  · intro alignment size inside
    obtain ⟨call, suits⟩ := runs.suits_of_mem _ ⟨size, some alignment⟩ rfl inside
    have room := suits.room.2
    rw [Suits] at suits
    cases operand : call.2.operand call.1.takesAlignment with
    | none =>
      rw [operand] at suits
      cases suits
    | some given =>
      rw [operand] at suits
      cases suits with
      | aligned _ _ power least => exact ⟨power, room, least.1.1⟩
  · exact runs.requests.imp fun call request suits => ⟨suits, suits.room.1⟩

/-- A run with every kind of call, up to an alignment that is no power of two. -/
theorem operators_on_counting_host :
    let host : Host := ⟨fun index _ => UInt64.ofNat (4096 * (index + 1))⟩
    let calls : List Invocation :=
      [(.new false false, {}), (.delete true true false, {}),
        (.new true true, { size := 100, alignment := 64 }),
        (.delete false false true, { alignment := 3, address := 4096 }),
        (.new false true, { size := 1, alignment := 48 }),
        (.delete false false false, { address := 7 })]
    (∀ call ∈ calls, call.1.category = .allocation)
      ∧ (Process.run host {} calls).final.hostCalls
        = [.malloc 1, .alignedAlloc 64 128, .free 4096]
      ∧ (Process.run host {} calls).trap = some .invalidAlignment
      ∧ [4096] = (((calls.take 4).filter (·.1.isDelete)).map (·.2.address)).filter (· ≠ 0) := by
  intro host calls
  have operators : ∀ call ∈ calls, call.1.category = .allocation := by decide
  obtain ⟨made, sum, _, _, _, _, _, freed⟩ := operators_on_any_host host {} calls operators
  have seen : (Process.run host {} calls).final.hostCalls
      = [.malloc 1, .alignedAlloc 64 128, .free 4096] := by decide +kernel
  have answered : (Process.run host {} calls).answers.length = 4 := by decide +kernel
  -- a fresh process has called nothing before, so these are the calls of the run
  rw [seen, List.nil_append] at sum
  rw [← sum, answered] at freed
  exact ⟨operators, seen, by decide +kernel, freed⟩

end Process

end LinkContract
