import CloudOperator.Proofs.Moves

/-!
# Runs of turns

A run is what happens to one object over time: turns of the operator, in any number, with
whatever each remembers and whatever each is answered, and between them edits by other
clients, who leave the status to the operator.  The turns of a run are listed with the
last one first.

What a turn remembers is not tied to the turn before it, so an operator that was restarted
goes on with the same run.
-/

namespace CloudOperator

variable {K : Kind}

/-- A run of turns and edits, from an object as it is stored at first to one as it is
stored at last. -/
inductive Run (edit : Object K → Object K → Prop) (ns name : String) (initial : Object K) :
    List (Turn K) → Object K → Prop
  | start : Run edit ns name initial [] initial
  | edited {turns : List (Turn K)} {o o' : Object K} (run : Run edit ns name initial turns o)
      (edits : edit o o') : Run edit ns name initial turns o'
  | turned {turns : List (Turn K)} {t : Turn K} (run : Run edit ns name initial turns t.stored)
      (goes : t.Goes ns name) : Run edit ns name initial (t :: turns) t.after

namespace Run

variable {edit : Object K → Object K → Prop} {ns name : String} {initial o : Object K}
  {turns : List (Turn K)}

/-- Each turn of a run goes from an object that a run of the earlier turns leads to. -/
theorem of_mem (run : Run edit ns name initial turns o) {t : Turn K} (found : t ∈ turns) :
  t.Goes ns name ∧ ∃ earlier, (∀ u ∈ earlier, u ∈ turns) ∧
    Run edit ns name initial earlier t.stored
  := by
  induction run with
  | start => cases found
  | edited run edits ih => exact ih found
  | @turned turns t' run goes ih =>
    obtain rfl | found := List.mem_cons.mp found
    · exact ⟨goes, turns, fun u => List.mem_cons_of_mem _, run⟩
    · obtain ⟨goes, earlier, among, run⟩ := ih found
      exact ⟨goes, earlier, fun u found => List.mem_cons_of_mem _ (among u found), run⟩

/-- A turn of a run goes from the object that the run of all earlier turns leads to. -/
theorem of_append {later earlier : List (Turn K)} {t : Turn K}
    (run : Run edit ns name initial (later ++ t :: earlier) o) :
  t.Goes ns name ∧ Run edit ns name initial earlier t.stored
  := by
  generalize all : later ++ t :: earlier = turns at run
  induction run generalizing later with
  | start => cases List.append_ne_nil_of_right_ne_nil later (List.cons_ne_nil t earlier) all
  | edited run edits ih => exact ih all
  | turned run goes ih =>
    cases later with
    | nil =>
      cases all
      exact ⟨goes, run⟩
    | cons u later =>
      cases all
      apply ih rfl

/-- What edits and turns keep, and what holds at first, holds of every object that a run
leads to. -/
theorem keeps {p : Object K → Prop} (edits : ∀ {o o'}, edit o o' → p o → p o')
    (turned : ∀ {t : Turn K}, t.Goes ns name → p t.stored → p t.after)
    (run : Run edit ns name initial turns o) (initially : p initial) :
  p o
  := by
  induction run with
  | start => exact initially
  | edited run edit ih => exact edits edit ih
  | turned run goes ih => exact turned goes ih

end Run

end CloudOperator
