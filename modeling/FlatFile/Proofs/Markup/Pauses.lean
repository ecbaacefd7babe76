/-
  FlatFile/Proofs/Markup/Pauses.lean
  ==================================
  **When a reader does not notice the blocks of a document.**

  A pause between two blocks matters in one place only, a comment inside a document type
  declaration, where the reader counts the dashes at the ends of blocks and forgets what
  stands between them.  So a comment in which a dash has been followed by something else
  (it is *parted*) may end at a `>` behind a single dash, if the blocks are cut for it.
  In any other place a reader that is paused and one that never is take the same steps.

  The two differ in their counts of dashes alone (`Reader.Alike`).  `Dashes.Counted` says
  what these counts have to do with each other; a character and a pause keep it, the pause
  only behind at least one character of its block (`Dashes.Settled`), and it makes them
  agree on the end of the comment unless a single dash stands in a parted one.  There they
  can be made to differ (`Dashes.areTwo_of_parted`).
-/
import FlatFile.Markup.Reader

namespace FlatFile.Markup

/-! ### Dashes -/

namespace Dashes

/-- A dash of the comment has been followed by something else, after one more character. -/
def partedAfter (dashes : Dashes) (parted : Bool) (c : Char) : Bool :=
  parted || (c != '-' && dashes.here != 0)

/-- A character at which the end of the comment depends on the blocks. -/
def unclearAt (dashes : Dashes) (parted : Bool) (c : Char) : Bool :=
  parted && c == '>' && dashes.here == 1

/-- **The dashes of a comment, counted in blocks and as a whole.**  In a block that has had other
    characters both counts are those since the last of them.  In one of nothing but dashes the
    count in blocks goes on from the blocks before, and may be too large in a parted comment. -/
structure Counted (parted : Bool) (paused whole : Dashes) : Prop where
  earlier : whole.earlier = 0
  broken : paused.unbroken = false →
    paused.here = whole.here ∧ (paused.earlier = 0 ∨ parted = true)
  unbroken : paused.unbroken = true →
    paused.earlier + paused.here = whole.here
      ∨ (parted = true ∧ 1 ≤ whole.here ∧ whole.here ≤ paused.earlier + paused.here)

/-- The dashes of a comment behind at least one character of a block, or at its start. -/
structure Settled (parted : Bool) (paused whole : Dashes) : Prop
    extends Counted parted paused whole where
  settled : paused.unbroken = true → paused.here = 0 → whole.here = 0

variable {parted : Bool} {paused whole : Dashes}

theorem settled_start : Settled false start start where
  earlier := rfl
  broken := nofun
  unbroken _ := .inl rfl
  settled _ _ := rfl

theorem step_dash (dashes : Dashes) : dashes.step '-' = { dashes with here := dashes.here + 1 } :=
  if_pos rfl

theorem step_other {c : Char} (other : c ≠ '-') (dashes : Dashes) :
    dashes.step c = { dashes with here := 0, unbroken := false } :=
  if_neg other

theorem Counted.step (counted : Counted parted paused whole) (c : Char) :
    Settled (whole.partedAfter parted c) (paused.step c) (whole.step c) := by
  by_cases dash : c = '-'
  · subst dash
    have still : whole.partedAfter parted '-' = parted := by simp [partedAfter]
    rw [step_dash, step_dash, still]
    refine ⟨⟨counted.earlier, ?_, ?_⟩, ?_⟩
    · intro broken
      obtain ⟨same, before⟩ := counted.broken broken
      exact ⟨congrArg (· + 1) same, before⟩
    · intro unbroken
      dsimp only
      rcases counted.unbroken unbroken with same | ⟨apart, some_dash, fewer⟩
      · left
        omega
      · right
        refine ⟨apart, ?_, ?_⟩
        · omega
        · omega
    · intro unbroken none
      cases none
  · rw [step_other dash, step_other dash]
    refine ⟨⟨counted.earlier, ?_, nofun⟩, nofun⟩
    intro _
    refine ⟨rfl, ?_⟩
    -- Dashes at the end of an earlier block have been followed by this character, if by no other.
    have apart : paused.earlier = 0 ∨ parted = true ∨ whole.here ≠ 0 := by
      cases broken : paused.unbroken with
      | false => exact (counted.broken broken).2.imp_right .inl
      | true =>
        rcases counted.unbroken broken with same | ⟨apart, -, -⟩
        · omega
        · exact .inr (.inl apart)
    refine apart.imp_right ?_
    intro apart
    simp only [partedAfter, Bool.or_eq_true, Bool.and_eq_true, bne_iff_ne]
    exact apart.imp_right fun some_dash => ⟨dash, some_dash⟩

theorem pause_eq (dashes : Dashes) :
    dashes.pause =
      if dashes.here = 0 then start else ⟨dashes.earlier + dashes.here, 0, true⟩ := by
  unfold pause
  cases dashes.here with
  | zero => rfl
  | succ more => rfl

theorem Settled.pause (settled : Settled parted paused whole) :
    Counted parted paused.pause whole := by
  rw [pause_eq]
  by_cases none : paused.here = 0
  · -- Either count is of no dashes, and the one in blocks begins anew.
    have none' : whole.here = 0 := by
      cases broken : paused.unbroken with
      | false => exact (settled.broken broken).1.symm.trans none
      | true => exact settled.settled broken none
    rw [if_pos none]
    exact ⟨settled.earlier, nofun, fun _ => .inl none'.symm⟩
  · rw [if_neg none]
    refine ⟨settled.earlier, nofun, ?_⟩
    intro _
    rw [Nat.add_zero]
    cases broken : paused.unbroken with
    | true => exact settled.unbroken broken
    | false =>
      obtain ⟨same, before⟩ := settled.broken broken
      rcases before with first | apart
      · left
        rw [first, Nat.zero_add, same]
      · right
        refine ⟨apart, ?_, ?_⟩
        · omega
        · dsimp only
          omega

/-- **The end of a comment**: both counts tell it at a character that is clear. -/
theorem Counted.ends (counted : Counted parted paused whole) {c : Char}
    (clear : whole.unclearAt parted c = false) :
    (c = '>' && paused.areTwo) = (c = '>' && whole.areTwo) := by
  by_cases closing : c = '>'
  · have one : parted = true → whole.here ≠ 1 := by
      intro apart single
      simp [unclearAt, apart, closing, single] at clear
    have counts : paused.areTwo = whole.areTwo := by
      have total : (if whole.unbroken then whole.earlier + whole.here else whole.here) =
          whole.here := by
        rw [counted.earlier, Nat.zero_add, ite_self]
      unfold areTwo
      rw [total, Bool.eq_iff_iff, Nat.ble_eq, Nat.ble_eq]
      cases broken : paused.unbroken with
      | false =>
        have same := (counted.broken broken).1
        simp [same]
      | true =>
        rcases counted.unbroken broken with same | ⟨apart, some_dash, fewer⟩
        · simp [same]
        · have two := one apart
          simp only [if_true]
          omega
    rw [counts]
  · rw [decide_eq_false closing, Bool.false_and, Bool.false_and]

/-- The dashes behind some characters of a block. -/
def after (dashes : Dashes) (text : List Char) : Dashes := text.foldl step dashes

theorem after_cons (dashes : Dashes) (c : Char) (text : List Char) :
    dashes.after (c :: text) = (dashes.step c).after text := rfl

theorem after_append (dashes : Dashes) (text more : List Char) :
    dashes.after (text ++ more) = (dashes.after text).after more := List.foldl_append

theorem earlier_after (dashes : Dashes) (text : List Char) :
    (dashes.after text).earlier = dashes.earlier := by
  induction text generalizing dashes with
  | nil => rfl
  | cons c text ih =>
    rw [after_cons, ih]
    by_cases dash : c = '-'
    · rw [dash, step_dash]
    · rw [step_other dash]

/-- Behind another character the dashes of the block are counted anew. -/
theorem here_after_other {c : Char} (other : c ≠ '-') (dashes dashes' : Dashes)
    (text : List Char) : (dashes.after (c :: text)).here = (dashes'.after (c :: text)).here := by
  have same (dashes dashes' : Dashes) (alike : dashes.here = dashes'.here) :
      (dashes.after text).here = (dashes'.after text).here := by
    induction text generalizing dashes dashes' with
    | nil => exact alike
    | cons c text ih =>
      rw [after_cons, after_cons]
      apply ih
      by_cases dash : c = '-'
      · rw [dash, step_dash, step_dash, alike]
      · rw [step_other dash, step_other dash]
  rw [after_cons, after_cons]
  apply same
  rw [step_other other, step_other other]

/-- **No comment that is not clear ends alike in all blocks.**  A comment with a single dash in front
    of a bracket, and another dash before that something else follows, goes on at the bracket if it
    is read as a whole, and ends there if blocks end behind the two dashes. -/
theorem areTwo_of_parted (front middle : List Char) {c : Char} (other : c ≠ '-')
    (single : (start.after (front ++ '-' :: c :: middle)).here = 1) :
    (start.after (front ++ '-' :: c :: middle)).areTwo = false
      ∧ ((start.after (front ++ ['-'])).pause.after (c :: middle)).pause.areTwo = true := by
  have split : start.after (front ++ '-' :: c :: middle) =
      (start.after (front ++ ['-'])).after (c :: middle) := by
    rw [← after_append, List.append_assoc]
    rfl
  constructor
  · have first := earlier_after start (front ++ '-' :: c :: middle)
    unfold areTwo
    rw [first, single]
    cases (start.after (front ++ '-' :: c :: middle)).unbroken with
    | false => rfl
    | true => rfl
  · have dashed : (start.after (front ++ ['-'])).here = (start.after front).here + 1 := by
      rw [after_append, after_cons, step_dash]
      rfl
    have last : ((start.after (front ++ ['-'])).pause.after (c :: middle)).here = 1 := by
      rw [split] at single
      rw [here_after_other other _ (start.after (front ++ ['-'])), single]
    rw [pause_eq, last, if_neg (by simp), earlier_after, pause_eq, dashed, if_neg (by simp)]
    unfold areTwo
    rw [Nat.ble_eq]
    simp only [if_true]
    omega

end Dashes

/-! ### Comments -/

/-- A comment of the subset begins without dashes. -/
theorem DoctypePart.comment_of_step {part : DoctypePart} {c : Char} {dashes : Dashes}
    (outside : ∀ before, part ≠ .comment before) (step : part.step c = some (.comment dashes)) :
    dashes = .start := by
  cases part with
  | outside quote =>
    cases quote with
    | some quote => cases step
    | none =>
      simp only [DoctypePart.step] at step
      split at step
      · cases step
      · split at step
        · cases step
        · cases step
  | subset =>
    simp only [DoctypePart.step] at step
    split at step
    · cases step
    · split at step
      · cases step
      · cases step
  | opened seen =>
    have told := Option.some.inj step
    unfold stepOpened at told
    dsimp only at told
    split at told
    · rename_i word part found
      have inside := List.mem_of_find?_eq_some found
      subst told
      have entry : word = "!--" ∧ dashes = .start := by simpa [openings] using inside
      exact entry.2
    · split at told
      · cases told
      · unfold stepPlain at told
        split at told
        · cases told
        · cases told
  | plain =>
    have told := Option.some.inj step
    unfold stepPlain at told
    split at told
    · cases told
    · cases told
  | valued quote =>
    simp only [DoctypePart.step] at step
    split at step
    · cases step
    · cases step
  | comment before => exact absurd rfl (outside before)
  | instruction marked =>
    simp only [DoctypePart.step] at step
    split at step
    · cases step
    · cases step
  | closing =>
    simp only [DoctypePart.step] at step
    split at step
    · cases step
    · cases step

namespace Reader

/-- The dashes in front of the character at hand, in a comment of a document type declaration. -/
def dashes? (reader : Reader) : Option Dashes :=
  match reader.scan with
  | .doctype (.comment dashes) _ => some dashes
  | _ => none

variable {reader next : Reader} {c : Char} {event : Option Event}

theorem outside_of_stepText {seen : List Char} (step : reader.stepText seen c = .ok (event, next)) :
    next.dashes? = none := by
  unfold stepText at step
  split at step
  · cases step
    rfl
  · split at step
    · cases step
      rfl
    · cases step
      rfl

theorem outside_of_stepTag {quote : Option Char} {seen : List Char}
    (step : reader.stepTag quote seen c = .ok (event, next)) : next.dashes? = none := by
  unfold stepTag at step
  split at step
  · split at step
    · cases step
      rfl
    · cases step
      rfl
  · cases step
    rfl

theorem outside_of_stepEndTag {quote : Option Char} {seen : List Char}
    (step : reader.stepEndTag quote seen c = .ok (event, next)) : next.dashes? = none := by
  unfold stepEndTag at step
  split at step
  · dsimp only at step
    split at step
    · cases step
    · split at step
      · cases step
        rfl
      · cases step
  · cases step
    rfl

/-- A reader that comes into a comment is at the start of it. -/
theorem enters_of_step (outside : reader.dashes? = none)
    (step : reader.step c = .ok (event, next)) :
    next.dashes? = none
      ∨ ∃ seen openElements, next = ⟨.doctype (.comment .start) seen, openElements⟩ := by
  rcases reader with ⟨scan, openElements⟩
  cases scan with
  | doctype part seen =>
    have another : ∀ before, part ≠ .comment before := by
      rintro before rfl
      cases outside
    simp only [Reader.step] at step
    cases after : part.step c with
    | none =>
      simp only [after] at step
      split at step
      · cases step
      · split at step
        · cases step
        · cases step
          exact .inl rfl
    | some part' =>
      simp only [after] at step
      cases step
      cases part' with
      | comment dashes =>
        have fresh := DoctypePart.comment_of_step another after
        subst fresh
        exact .inr ⟨_, _, rfl⟩
      | _ => exact .inl rfl
  | start =>
    left
    simp only [Reader.step] at step
    split at step
    · cases step
      rfl
    · exact outside_of_stepText step
  | text seen => exact .inl (outside_of_stepText step)
  | tag quote seen => exact .inl (outside_of_stepTag step)
  | endTag quote seen => exact .inl (outside_of_stepEndTag step)
  | opened =>
    left
    simp only [Reader.step] at step
    split at step
    · cases step
      rfl
    · split at step
      · cases step
        rfl
      · split at step
        · cases step
          rfl
        · exact outside_of_stepTag step
  | _ =>
    -- No other place leads into a document type declaration but to its start.
    left
    simp only [Reader.step, moved, completed] at step
    grind [dashes?]

theorem pause_of_outside {reader : Reader} (outside : reader.dashes? = none) :
    reader.pause = reader := by
  rcases reader with ⟨scan, openElements⟩
  cases scan with
  | doctype part seen =>
    cases part with
    | comment dashes => cases outside
    | _ => rfl
  | _ => rfl

/-! ### Readers with pauses and without -/

/-- **Two readers that differ in their counts of dashes at most**, and these as the relation says. -/
inductive Alike (counts : Dashes → Dashes → Prop) : Reader → Reader → Prop where
  | same {reader : Reader} (outside : reader.dashes? = none) : Alike counts reader reader
  | comment {paused whole : Dashes} (related : counts paused whole) (seen : List Char)
      (openElements : List (List Char)) :
      Alike counts ⟨.doctype (.comment paused) seen, openElements⟩
        ⟨.doctype (.comment whole) seen, openElements⟩

/-- A dash of the comment at hand has been followed by something else, after one more character. -/
def partedAfter (reader : Reader) (parted : Bool) (c : Char) : Bool :=
  match reader.dashes? with
  | some dashes => dashes.partedAfter parted c
  | none => false

/-- A character at which the end of a comment depends on the blocks of the document. -/
def unclearAt (reader : Reader) (parted : Bool) (c : Char) : Bool :=
  match reader.dashes? with
  | some dashes => dashes.unclearAt parted c
  | none => false

/-- **A character is the same to both readers**, if it is clear. -/
theorem Alike.step {parted : Bool} {paused whole : Reader}
    (alike : Alike (Dashes.Counted parted) paused whole) {c : Char}
    (clear : whole.unclearAt parted c = false) :
    (∃ fault, paused.step c = .error fault ∧ whole.step c = .error fault)
      ∨ ∃ event paused' whole', paused.step c = .ok (event, paused')
        ∧ whole.step c = .ok (event, whole')
        ∧ Alike (Dashes.Settled (whole.partedAfter parted c)) paused' whole' := by
  cases alike with
  | same outside =>
    cases step : paused.step c with
    | error fault => exact .inl ⟨fault, rfl, rfl⟩
    | ok taken =>
      rcases taken with ⟨event, next⟩
      refine .inr ⟨event, next, next, rfl, rfl, ?_⟩
      have unparted : paused.partedAfter parted c = false := by rw [partedAfter, outside]
      rw [unparted]
      rcases enters_of_step outside step with still | ⟨seen, openElements, rfl⟩
      · exact .same still
      · exact .comment Dashes.settled_start seen openElements
  | @comment before before' counted seen openElements =>
    have ends := counted.ends clear
    have after := counted.step c
    right
    simp only [Reader.step, DoctypePart.step, ends]
    cases (c = '>' && before'.areTwo : Bool) with
    | true => exact ⟨_, _, _, rfl, rfl, .same rfl⟩
    | false => exact ⟨_, _, _, rfl, rfl, .comment after _ _⟩

theorem Alike.pause {parted : Bool} {paused whole : Reader}
    (alike : Alike (Dashes.Settled parted) paused whole) :
    Alike (Dashes.Counted parted) paused.pause whole := by
  cases alike with
  | same outside =>
    rw [pause_of_outside outside]
    exact .same outside
  | comment settled seen openElements => exact .comment settled.pause seen openElements

/-! ### Clear texts -/

/-- **No blocks make a difference to a text**: in no comment of a document type declaration does a
    closing bracket follow a single dash, once another dash of the comment has been followed by
    something else. -/
def clearFrom (reader : Reader) (parted : Bool) : List Char → Bool
  | [] => true
  | c :: rest =>
    !reader.unclearAt parted c &&
      match reader.step c with
      | .error _ => true
      | .ok (_, next) => next.clearFrom (reader.partedAfter parted c) rest

theorem clear_of_clearFrom {reader : Reader} {parted : Bool} {c : Char} {rest : List Char}
    (clear : reader.clearFrom parted (c :: rest) = true) : reader.unclearAt parted c = false := by
  rw [clearFrom, Bool.and_eq_true, Bool.not_eq_true'] at clear
  exact clear.1

theorem clearFrom_of_step {reader next : Reader} {parted : Bool} {c : Char} {rest : List Char}
    {event : Option Event} (clear : reader.clearFrom parted (c :: rest) = true)
    (step : reader.step c = .ok (event, next)) :
    next.clearFrom (reader.partedAfter parted c) rest = true := by
  rw [clearFrom, Bool.and_eq_true, step] at clear
  exact clear.2

end Reader

end FlatFile.Markup
