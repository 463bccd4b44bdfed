import CloudOperator.Proofs.Backoff

/-!
# Delays of keys that share a tracker

The keys share one tracker.  It is asked for delays, for what follows a failure, and to forget
failures, for any keys in any order.  Of every key it holds the sequence of delays after those own
calls of the key that counted a failure since the failures were last forgotten
(`BackoffTracker.Call.Follows`).  The sequence has a closed form (`Backoff.delayAt`), and so have
all answers (`BackoffTracker.Call.answers_by_own_calls`).
-/

namespace CloudOperator

open Instant (lastSecond)

/-- The delay at the `k`-th failure in a row: the least delay times the `k`-th Fibonacci number,
cut to the bound, in seconds that fit into a word. -/
def Backoff.delayAt (least most k : Nat) : Nat :=
  Duration.ofSeconds (min (2 ^ 64 - 1) (60 * min most (least * Nat.fib k)))

/-- A least delay that is not above the bound is no exception from the closed form. -/
theorem Backoff.ofSeconds_secondsAfter {least most : Nat} (ordered : least ≤ most) (k : Nat) :
  Duration.ofSeconds (secondsAfter least most k) = delayAt least most (k + 1)
  := by
  have cut : minutes least most k = min most (least * Nat.fib (k + 1)) := by
    cases k with
    | zero =>
      rw [minutes, Nat.fib_one, Nat.mul_one]
      exact (Nat.min_eq_right ordered).symm
    | succ k => rfl
  rw [secondsAfter, cut, saturated, Nat.min_comm]
  rfl

instance (latest : Int) (now : Instant) : Decidable (now.IsReadUntil latest) :=
  decidable_of_iff (now.IsInCalendar ∧ now.second ≤ latest ∧ now.nano < 2_000_000_000)
    ⟨fun ⟨inCalendar, second, nano⟩ => ⟨inCalendar, second, nano⟩,
      fun ⟨inCalendar, second, nano⟩ => ⟨inCalendar, second, nano⟩⟩

namespace BackoffTracker

/-- Something that a tracker is asked about a key. -/
inductive Call where
  /-- For the delay after one more failure. -/
  | next (key : String)
  /-- For what follows a failure of the pass at the time `now`. -/
  | retry (key : String) (now : Instant) (f : PassFailure)
  /-- To forget the failures. -/
  | reset (key : String)
deriving DecidableEq

namespace Call

/-- The key that a call is about. -/
def key : Call → String
  | next key | retry key .. | reset key => key

/-- Whether the call counts a failure. -/
def counts : Call → Bool
  | next _ => true
  | retry _ _ f => !f.isTerminal && !f.isConflict
  | reset _ => false

/-- It is asked what follows a failure only where the bound of the delays is at most a billion
minutes, and at times from which so many minutes do not lead out of the calendar. -/
def IsDated (most : Nat) : Call → Prop
  | retry _ now _ =>
    most ≤ 1_000_000_000 ∧ now.IsReadUntil (lastSecond - 60 * 1_000_000_000)
  | _ => True

instance (most : Nat) : (call : Call) → Decidable (call.IsDated most)
  | retry .. => inferInstanceAs (Decidable (_ ∧ _))
  | next _ | reset _ => .isTrue trivial

/-- The tracker after a call, if it is answered. -/
def after? (t : BackoffTracker) : Call → Option BackoffTracker
  | next key => some (t.next key).2
  | retry key now f => (Retry.ofFailure? t key now f).map (·.2)
  | reset key => some (t.reset key)

/-- The tracker after some calls, the last one first. -/
def afterAll? (least most : Nat) : List Call → Option BackoffTracker
  | [] => some (.start least most)
  | call :: calls => (afterAll? least most calls).bind call.after?

/-- The calls about a key. -/
def own (key : String) (calls : List Call) : List Call :=
  calls.filter (·.key = key)

/-- The number of calls that counted a failure since the failures were last forgotten. -/
def inRow (key : String) (calls : List Call) : Nat :=
  ((own key calls).takeWhile (· ≠ reset key)).countP counts

variable {least most : Nat} {call : Call} {calls : List Call} {t t' : BackoffTracker}
  {key : String}

/-! ## Own calls -/

theorem own_cons_of_eq (mine : call.key = key) : own key (call :: calls) = call :: own key calls
  := List.filter_cons_of_pos (decide_eq_true mine)

theorem own_cons_of_ne (other : call.key ≠ key) : own key (call :: calls) = own key calls
  := List.filter_cons_of_neg (by simpa using other)

theorem inRow_cons_of_ne (other : call.key ≠ key) : inRow key (call :: calls) = inRow key calls
  := by rw [inRow, own_cons_of_ne other, inRow]

theorem inRow_cons_of_eq (mine : call.key = key) :
  inRow key (call :: calls) =
    if call = reset key then 0 else inRow key calls + if call.counts then 1 else 0
  := by
  rw [inRow, own_cons_of_eq mine, List.takeWhile_cons]
  split
  · rw [if_neg (of_decide_eq_true ‹_›), List.countP_cons, inRow]
  · rw [if_pos (by simpa using ‹¬ decide (call ≠ _) = true›), List.countP_nil]

theorem inRow_reset : inRow key (reset key :: calls) = 0
  := by
  have mine : (reset key).key = key := rfl
  rw [inRow_cons_of_eq mine, if_pos rfl]

/-- The calls about other keys do not matter. -/
theorem inRow_own : inRow key (own key calls) = inRow key calls
  := by simp only [inRow, own, List.filter_filter, Bool.and_self]

/-! ## The sequences of the keys -/

/-- A tracker with these bounds that holds of every key the sequence after its own calls. -/
structure Follows (least most : Nat) (calls : List Call) (t : BackoffTracker) : Prop where
  least_eq : t.least = least
  most_eq : t.most = most
  state_eq (key : String) :
    t.state key = ⟨.after least most (inRow key calls), inRow key calls⟩

namespace Follows

theorem start : Follows least most [] (.start least most)
  := ⟨rfl, rfl, fun _ => rfl⟩

variable (follows : Follows least most calls t)
include follows

theorem next_eq (word : most < UInt64.size) (key : String) :
  (t.next key).1 =
    (Duration.ofSeconds (Backoff.secondsAfter least most (inRow key calls)), inRow key calls + 1)
  := by
  rw [BackoffTracker.next, follows.state_eq key]
  dsimp only [BackoffState.countError]
  rw [Backoff.seconds_after word]

theorem counted (keeps : call ≠ reset call.key) (counts : call.counts = true) :
  Follows least most (call :: calls) (t.next call.key).2
  := by
  refine ⟨follows.least_eq, follows.most_eq, fun key => ?_⟩
  rw [state_next]
  split
  · obtain rfl := ‹call.key = key›
    rw [inRow_cons_of_eq rfl, if_neg keeps, if_pos counts, follows.state_eq]
    rfl
  · rw [inRow_cons_of_ne ‹_›]
    exact follows.state_eq key

theorem spared (keeps : call ≠ reset call.key) (spares : call.counts = false) :
  Follows least most (call :: calls) t
  := by
  refine ⟨follows.least_eq, follows.most_eq, fun key => ?_⟩
  by_cases same : call.key = key
  · obtain rfl := same
    rw [inRow_cons_of_eq rfl, if_neg keeps, spares]
    exact follows.state_eq _
  · rw [inRow_cons_of_ne same]
    exact follows.state_eq key

theorem forgotten (key : String) :
  Follows least most (reset key :: calls) (t.reset key)
  := by
  refine ⟨follows.least_eq, follows.most_eq, fun key' => ?_⟩
  rw [state_reset]
  split
  · obtain rfl := ‹key = key'›
    rw [inRow_reset, follows.least_eq, follows.most_eq]
    rfl
  · rw [inRow_cons_of_ne ‹_›]
    exact follows.state_eq key'

/-- A failure that backs off is answered, since its delay does not lead out of the calendar. -/
theorem ofFailure?_of_backsOff (ordered : least ≤ most) (word : most < UInt64.size)
    {now : Instant} {f : PassFailure} (dated : (retry key now f).IsDated most)
    (backsOff : f.BacksOff) :
  Retry.ofFailure? t key now f =
    some (.backOff (Backoff.delayAt least most (inRow key calls + 1)), (t.next key).2)
  := by
  obtain ⟨bounded, reading⟩ := dated
  obtain ⟨later, inside⟩ : ∃ later,
      now.add? (Retry.reportedSpan (t.next key).1.1) = some later := by
    apply Option.ne_none_iff_exists'.mp
    rw [follows.next_eq word, Ne, Instant.add?_reportedSpan_eq_none reading]
    rintro ⟨-, leaves⟩
    have shorter : saturated (60 * least) ≤ saturated (60 * most) := by
      simp only [saturated]
      omega
    have longest := Backoff.secondsAfter_le shorter (inRow key calls)
    have before := reading.second
    simp only [saturated] at longest
    omega
  rw [ofFailure?_eq backsOff, inside, follows.next_eq word, Backoff.ofSeconds_secondsAfter ordered]
  rfl

/-- What follows a failure, and the tracker after it. -/
theorem ofFailure? (ordered : least ≤ most) (word : most < UInt64.size) {now : Instant}
    {f : PassFailure} (dated : (retry key now f).IsDated most) :
  ∃ answer t', Retry.ofFailure? t key now f = some (answer, t') ∧
    (answer.delay?, t') =
      if f.isTerminal then (none, t)
      else if f.isConflict then (some Retry.conflictDelay, t)
      else (some (Backoff.delayAt least most (inRow key calls + 1)), (t.next key).2)
  := by
  cases terminal : f.isTerminal with
  | true => exact ⟨.awaitChange, t, by rw [Retry.ofFailure?, if_pos terminal], rfl⟩
  | false =>
    cases conflict : f.isConflict with
    | true =>
      refine ⟨.conflict, t, ?_, rfl⟩
      rw [Retry.ofFailure?, terminal, if_pos conflict]
      rfl
    | false =>
      exact ⟨_, _, follows.ofFailure?_of_backsOff ordered word dated ⟨terminal, conflict⟩, rfl⟩

/-- Every call is answered, and the tracker goes on to follow the calls. -/
theorem after (ordered : least ≤ most) (word : most < UInt64.size) (dated : call.IsDated most) :
  ∃ t', call.after? t = some t' ∧ Follows least most (call :: calls) t'
  := by
  cases call with
  | next key => exact ⟨_, rfl, follows.counted Call.noConfusion rfl⟩
  | reset key => exact ⟨_, rfl, follows.forgotten key⟩
  | retry key now f =>
    have keeps : retry key now f ≠ reset key := Call.noConfusion
    obtain ⟨answer, t', answers, moves⟩ := follows.ofFailure? ordered word dated
    refine ⟨t', by rw [after?, answers]; rfl, ?_⟩
    split at moves
    · obtain ⟨-, rfl⟩ := Prod.mk.inj moves
      exact follows.spared keeps (by simp [counts, *])
    · split at moves
      · obtain ⟨-, rfl⟩ := Prod.mk.inj moves
        exact follows.spared keeps (by simp [counts, *])
      · obtain ⟨-, rfl⟩ := Prod.mk.inj moves
        exact follows.counted keeps (by simp [counts, *])

end Follows

/-- Calls whose times stay in the calendar are all answered. -/
theorem exists_follows (ordered : least ≤ most) (word : most < UInt64.size)
    (dated : ∀ call ∈ calls, call.IsDated most) :
  ∃ t, afterAll? least most calls = some t ∧ Follows least most calls t
  := by
  induction calls with
  | nil => exact ⟨_, rfl, .start⟩
  | cons call calls ih =>
    obtain ⟨t, answered, follows⟩ := ih fun call' before =>
      dated call' (List.mem_cons_of_mem call before)
    obtain ⟨t', answers, goesOn⟩ := follows.after ordered word (dated call List.mem_cons_self)
    refine ⟨t', ?_, goesOn⟩
    rw [afterAll?, answered]
    exact answers

/-- Where the least delay is not above the bound, any calls about any keys are answered, and after
them the answers about a key are those that its own calls alone lead to:

* The next delay is that of `k` failures in a row, and comes with the number `k`, if there were
  `k - 1` such failures since the key was last forgotten.
* After a failure that only a change of the object can mend there is no delay, after a conflict
  there is the fixed one, and both leave the tracker as it is.
* After any other failure the delay is that of `k` failures in a row as well. -/
theorem answers_by_own_calls (ordered : least ≤ most) (word : most < UInt64.size)
    (dated : ∀ call ∈ calls, call.IsDated most) :
  ∃ t, afterAll? least most calls = some t ∧ ∀ key,
    let k := inRow key calls + 1
    (t.next key).1 = (Backoff.delayAt least most k, k) ∧
    (∀ now f, (retry key now f).IsDated most →
      ∃ answer t', Retry.ofFailure? t key now f = some (answer, t') ∧
        (answer.delay?, t') =
          if f.isTerminal then (none, t)
          else if f.isConflict then (some Retry.conflictDelay, t)
          else (some (Backoff.delayAt least most k), (t.next key).2)) ∧
    ∃ alone, afterAll? least most (own key calls) = some alone ∧
      alone.state key = t.state key
  := by
  obtain ⟨t, answered, follows⟩ := exists_follows ordered word dated
  refine ⟨t, answered, fun key => ⟨?_, fun now f => follows.ofFailure? ordered word, ?_⟩⟩
  · rw [follows.next_eq word, Backoff.ofSeconds_secondsAfter ordered]
  · have dated' : ∀ call ∈ own key calls, call.IsDated most := fun call mem =>
      dated call (List.mem_of_mem_filter mem)
    obtain ⟨alone, answered', follows'⟩ := exists_follows ordered word dated'
    refine ⟨alone, answered', ?_⟩
    rw [follows'.state_eq key, follows.state_eq key, inRow_own]

/-- Calls about two VPCs, the last one first: since the failures of the one were forgotten,
it failed three times and had a conflict, and the other failed once and then told no tenant. -/
def interleaved : List Call :=
  [.next "ArubaVpc/team-a/main",
    .retry "ArubaVpc/team-b/main" ⟨1_704_067_322, 0⟩ (.configuration "no tenant"),
    .retry "ArubaVpc/team-a/main" ⟨1_704_067_321, 0⟩ (.timeout 0),
    .retry "ArubaVpc/team-a/main" ⟨1_704_067_320, 0⟩
      (.persistence (.conflict "team-a" "main")),
    .next "ArubaVpc/team-b/main",
    .retry "ArubaVpc/team-a/main" ⟨1_704_067_200, 0⟩ (.timeout 0),
    .reset "ArubaVpc/team-a/main",
    .next "ArubaVpc/team-a/main"]

/-- The fourth failure of the one VPC waits for three minutes, and the second one of the other for
one. -/
theorem answers_by_own_calls_interleaved :
  (1 ≤ 10 ∧ 10 < UInt64.size ∧ ∀ call ∈ interleaved, call.IsDated 10) ∧
  ∃ t, afterAll? 1 10 interleaved = some t ∧
    (t.next "ArubaVpc/team-a/main").1 = (Duration.ofSeconds 180, 4) ∧
    ∃ answer t', Retry.ofFailure? t "ArubaVpc/team-b/main" ⟨1_704_067_323, 0⟩ (.timeout 0) =
        some (answer, t') ∧
      answer.delay? = some (Duration.ofSeconds 60)
  := by
  have dated : ∀ call ∈ interleaved, call.IsDated 10 := by decide +kernel
  obtain ⟨t, answered, answers⟩ :=
    answers_by_own_calls (show 1 ≤ 10 by decide) (by decide) dated
  obtain ⟨next, -⟩ := answers "ArubaVpc/team-a/main"
  obtain ⟨-, retried, -⟩ := answers "ArubaVpc/team-b/main"
  obtain ⟨answer, t', answers, moves⟩ :=
    retried ⟨1_704_067_323, 0⟩ (.timeout 0) (by decide +kernel)
  refine ⟨⟨by decide, by decide, dated⟩, t, answered, ?_, answer, t', answers, ?_⟩
  · exact next.trans (by decide +kernel)
  · exact (Prod.mk.inj moves).1.trans (by decide +kernel)

end Call

end BackoffTracker

end CloudOperator
