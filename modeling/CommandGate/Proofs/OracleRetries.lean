import CommandGate.Oracle.Generator
import Mathlib.Data.ENat.Lattice

/-!
Asking again after timeouts. The replies that an oracle would give to one request, put again and
again, make an infinite sequence; asking reads it up to the first reply that is no timeout, or up to
the number of calls that is allowed, and gives the reply read last. A counter of 32 bits is enough to
count the calls.
-/

namespace CommandGate

noncomputable def leadingTimeouts (replies : ℕ → Except OracleError GenerateReply) : ℕ∞ :=
  ⨅ (earlier : ℕ) (_ : replies earlier ≠ .error .timeout), (earlier : ℕ∞)

theorem le_leadingTimeouts_iff {replies : ℕ → Except OracleError GenerateReply} {count : ℕ} :
    (count : ℕ∞) ≤ leadingTimeouts replies ↔
      ∀ earlier < count, replies earlier = .error .timeout := by
  simp only [leadingTimeouts, le_iInf_iff, Nat.cast_le]
  constructor
  · intro below earlier before
    by_contra other
    exact absurd (below earlier other) (not_le.mpr before)
  · intro timeouts earlier other
    by_contra before
    exact other (timeouts earlier (not_le.mp before))

theorem leadingTimeouts_le {replies : ℕ → Except OracleError GenerateReply} {earlier : ℕ}
    (other : replies earlier ≠ .error .timeout) : leadingTimeouts replies ≤ earlier :=
  iInf₂_le earlier other

namespace Oracle

variable {σ : Type} {oracle : Oracle σ} {request : GenerateRequest} {world : World σ}

def askTimes (oracle : Oracle σ) (request : GenerateRequest) : ℕ → World σ → World σ
  | 0, world => world
  | calls + 1, world => oracle.askTimes request calls (oracle.ask request world).2

def replies (oracle : Oracle σ) (request : GenerateRequest) (world : World σ) (earlier : ℕ) :
    Except OracleError GenerateReply :=
  (oracle.ask request (oracle.askTimes request earlier world)).1

def scripted (script : ℕ → Except OracleError GenerateReply) : Oracle ℕ where
  generate _ given := (script given, given + 1)
  check given := (.ok (), given)

/-- Every sequence of replies is that of some oracle. -/
theorem replies_scripted (script : ℕ → Except OracleError GenerateReply) :
    (scripted script).replies request (.start 0) = script := by
  have reached (earlier given : ℕ) (world : World ℕ) (here : world.state = given) :
      ((scripted script).askTimes request earlier world).state = given + earlier := by
    induction earlier generalizing given world with
    | zero => exact here
    | succ earlier ih =>
      rw [askTimes, ih (given + 1) _ (congrArg (· + 1) here), Nat.succ_add_eq_add_succ]
  funext earlier
  exact congrArg script ((reached earlier 0 (.start 0) rfl).trans (Nat.zero_add earlier))

theorem requests_askTimes (calls : ℕ) :
    (oracle.askTimes request calls world).requests =
      world.requests ++ List.replicate calls request := by
  induction calls generalizing world with
  | zero => simp [askTimes]
  | succ calls ih =>
    have asked : (oracle.ask request world).2.requests = world.requests ++ [request] := rfl
    rw [askTimes, ih, asked, List.replicate_succ, List.append_assoc, List.singleton_append]

theorem calls_askTimes (calls : ℕ) :
    (oracle.askTimes request calls world).calls = world.calls := by
  induction calls generalizing world with
  | zero => rfl
  | succ calls ih => exact ih

/-- Asking ends with the reply after so many others: these are all timeouts, and the reply itself is
one only if there may be no more. -/
structure StopsAfter (oracle : Oracle σ) (request : GenerateRequest) (world : World σ)
    (more earlier : ℕ) : Prop where
  allowed : earlier ≤ more
  timeouts : ∀ before < earlier, oracle.replies request world before = .error .timeout
  stopped : earlier = more ∨ oracle.replies request world earlier ≠ .error .timeout

theorem askAgain_of_timeout (replied : (oracle.ask request world).1 = .error .timeout) (more : ℕ) :
    oracle.askAgain request (more + 1) world =
      oracle.askAgain request more (oracle.ask request world).2 := by
  have answer : oracle.ask request world = (.error .timeout, (oracle.ask request world).2) :=
    Prod.ext replied rfl
  rw [askAgain, answer]
  rfl

theorem askAgain_of_other (replied : (oracle.ask request world).1 ≠ .error .timeout) (more : ℕ) :
    oracle.askAgain request more world = oracle.ask request world := by
  cases more with
  | zero => rfl
  | succ more =>
    rw [askAgain]
    split
    next error after answer =>
      rw [answer] at replied
      rw [if_neg (by cases error <;> simp_all [OracleError.isTransient]), answer]
    next => rfl

theorem exists_stopsAfter (oracle : Oracle σ) (request : GenerateRequest) (more : ℕ)
    (world : World σ) :
    ∃ earlier, oracle.StopsAfter request world more earlier ∧
      oracle.askAgain request more world =
        (oracle.replies request world earlier, oracle.askTimes request (earlier + 1) world) := by
  have none {motive : ℕ → Prop} : ∀ before < 0, motive before :=
    fun before inside => absurd inside (Nat.not_lt_zero before)
  induction more generalizing world with
  | zero => exact ⟨0, ⟨le_rfl, none, .inl rfl⟩, rfl⟩
  | succ more ih =>
    by_cases first : oracle.replies request world 0 = .error .timeout
    · obtain ⟨earlier, stops, asked⟩ := ih (oracle.ask request world).2
      refine ⟨earlier + 1, ⟨Nat.succ_le_succ stops.allowed, ?_, ?_⟩, ?_⟩
      · rintro (_ | before) inside
        · exact first
        · exact stops.timeouts before (Nat.lt_of_succ_lt_succ inside)
      · exact stops.stopped.imp_left (congrArg (· + 1))
      · exact (askAgain_of_timeout first more).trans asked
    · exact ⟨0, ⟨Nat.zero_le _, none, .inr first⟩, askAgain_of_other first (more + 1)⟩

theorem StopsAfter.calls_eq {more earlier : ℕ}
    (stops : oracle.StopsAfter request world more earlier) :
    ((earlier + 1 : ℕ) : ℕ∞) =
      min (leadingTimeouts (oracle.replies request world) + 1) ((more + 1 : ℕ) : ℕ∞) := by
  have lead := le_leadingTimeouts_iff.mpr stops.timeouts
  have within : (earlier : ℕ∞) ≤ more := Nat.cast_le.mpr stops.allowed
  rw [Nat.cast_succ, Nat.cast_succ, min_add_add_right]
  congr 1
  rcases stops.stopped with rfl | other
  · exact (min_eq_right lead).symm
  · rw [le_antisymm (leadingTimeouts_le other) lead]
    exact (min_eq_left within).symm

/-! ### The counter -/

/-- Asks with a counter of 32 bits that starts at the given count; none if it overflows. -/
def askCounting (oracle : Oracle σ) (request : GenerateRequest) (limit count : UInt32)
    (world : World σ) : Option (Except OracleError GenerateReply × World σ) :=
  match oracle.ask request world with
  | (.error error, world) =>
    if error.isTransient && count < limit then
      if count.toNat + 1 < UInt32.size then oracle.askCounting request limit (count + 1) world
      else none
    else some (.error error, world)
  | answered => some answered
termination_by UInt32.size - count.toNat
decreasing_by
  rw [UInt32.toNat_add, UInt32.toNat_one, Nat.mod_eq_of_lt ‹_›]
  omega

theorem askCounting_of_timeout {limit count : UInt32}
    (replied : (oracle.ask request world).1 = .error .timeout) (before : count < limit)
    (counts : count.toNat + 1 < UInt32.size) :
    oracle.askCounting request limit count world =
      oracle.askCounting request limit (count + 1) (oracle.ask request world).2 := by
  have answer : oracle.ask request world = (.error .timeout, (oracle.ask request world).2) :=
    Prod.ext replied rfl
  rw [askCounting, answer]
  simp [OracleError.isTransient, before, counts]

theorem askCounting_of_last {limit count : UInt32}
    (last : (oracle.ask request world).1 = .error .timeout → ¬count < limit) :
    oracle.askCounting request limit count world = some (oracle.ask request world) := by
  rw [askCounting]
  split
  next error after answer =>
    rw [answer] at last
    rw [if_neg (by cases error <;> simp_all [OracleError.isTransient]), answer]
  next => rfl

theorem askCounting_eq_some {limit count : UInt32} {more : ℕ}
    (left : count.toNat + more = limit.toNat) :
    oracle.askCounting request limit count world = some (oracle.askAgain request more world) := by
  induction more generalizing count world with
  | zero =>
    have last : ¬count < limit := by
      rw [UInt32.lt_iff_toNat_lt]
      omega
    exact askCounting_of_last fun _ => last
  | succ more ih =>
    by_cases replied : (oracle.ask request world).1 = .error .timeout
    · have before : count < limit := by
        rw [UInt32.lt_iff_toNat_lt]
        omega
      have counts : count.toNat + 1 < UInt32.size := by
        have bounded := limit.toNat_lt_size
        omega
      have next : (count + 1).toNat = count.toNat + 1 := by
        rw [UInt32.toNat_add, UInt32.toNat_one, Nat.mod_eq_of_lt counts]
      rw [askCounting_of_timeout replied before counts, askAgain_of_timeout replied]
      exact ih (by omega)
    · rw [askCounting_of_last fun timeout => absurd timeout replied, askAgain_of_other replied]

theorem toNat_max_one (attempts : UInt32) : (max attempts 1).toNat = max 1 attempts.toNat := by
  change (if attempts ≤ 1 then 1 else attempts).toNat = _
  split
  next few =>
    rw [UInt32.le_iff_toNat_le, UInt32.toNat_one] at few
    exact (max_eq_left few).symm
  next many =>
    rw [UInt32.le_iff_toNat_le, UInt32.toNat_one, not_le] at many
    exact (max_eq_right many.le).symm

/-- Whatever an oracle replies, the request is put once more than timeouts lead the replies, or as
often as it may be put, which is at least once; it is the same request each time. The reply given is
that to the last call, and all replies before it are timeouts. A counter of 32 bits does not overflow
on the way. -/
theorem retries_read_the_leading_timeouts (oracle : Oracle σ) (request : GenerateRequest)
    (attempts : UInt32) (world : World σ) :
    let replies := oracle.replies request world
    let ended := oracle.generateWithRetry request attempts world
    ∃ calls : ℕ,
      (calls : ℕ∞) = min (leadingTimeouts replies + 1) (max 1 attempts.toNat : ℕ) ∧
      ended.2.requests = world.requests ++ List.replicate calls request ∧
      ended = (replies (calls - 1), oracle.askTimes request calls world) ∧
      (∀ earlier, earlier + 1 < calls → replies earlier = .error .timeout) ∧
      oracle.askCounting request (max attempts 1) 1 world = some ended := by
  intro replies ended
  obtain ⟨earlier, stops, asked⟩ :=
    oracle.exists_stopsAfter request (attempts.toNat - 1) world
  have limit : attempts.toNat - 1 + 1 = max 1 attempts.toNat := by omega
  refine ⟨earlier + 1, limit ▸ stops.calls_eq, ?_, asked, ?_, ?_⟩
  · have after : ended.2 = oracle.askTimes request (earlier + 1) world := congrArg Prod.snd asked
    rw [after, requests_askTimes]
  · intro before inside
    exact stops.timeouts before (Nat.lt_of_succ_lt_succ inside)
  · refine askCounting_eq_some ?_
    rw [toNat_max_one, UInt32.toNat_one]
    omega

/-- Two timeouts, then a refused connection: the third of five calls is the last. -/
example : ((scripted fun given =>
      if given < 2 then .error .timeout else .error (.connection "refused")).generateWithRetry request
    5 (.start 0)).2.state = 3 := rfl

end Oracle

end CommandGate
