/-
  FlatFile/Proofs/Line/Search.lean
  ================================
  **Looking for the end of a line, and cutting a whole text.**

  `Line.findEnd` looks at text that may still grow, `Line.splitLines` cuts a text
  that is complete.  Both pass over the characters that end no line, so what they
  do is decided at the first one that does (`exists_quiet`).  What the search finds
  is then the first line of every text that goes on in any way, and where it finds
  nothing at the end of a text, that text is one line or none.
-/
import FlatFile.Line.Basic

namespace FlatFile.Line

/-! ### Characters that end no line -/

/-- A text without characters that end a line. -/
def Quiet (terminator : Terminator) (text : List Char) : Prop :=
  ∀ c ∈ text, ends terminator c = false

instance (terminator : Terminator) (text : List Char) : Decidable (Quiet terminator text) :=
  List.decidableBAll (fun c => ends terminator c = false) text

theorem Quiet.nil (terminator : Terminator) : Quiet terminator [] := by
  intro c inside
  cases inside

/-- Every text is quiet up to its end or up to the first character that ends a line. -/
theorem exists_quiet (terminator : Terminator) (text : List Char) :
    ∃ line rest, text = line ++ rest ∧ Quiet terminator line
      ∧ (rest = [] ∨ ∃ c more, rest = c :: more ∧ ends terminator c = true) := by
  induction text with
  | nil => exact ⟨[], [], rfl, .nil _, .inl rfl⟩
  | cons c text ih =>
    by_cases mark : ends terminator c = true
    · exact ⟨[], c :: text, rfl, .nil _, .inr ⟨c, text, rfl, mark⟩⟩
    · rcases ih with ⟨line, rest, rfl, quiet, stop⟩
      refine ⟨c :: line, rest, rfl, ?_, stop⟩
      intro d inside
      rcases List.mem_cons.mp inside with rfl | inside
      · simpa using mark
      · exact quiet d inside

theorem findEnd_cons {terminator : Terminator} {c : Char} (quiet : ends terminator c = false)
    (ended : Bool) (position : Nat) (rest : List Char) :
    findEnd terminator ended position (c :: rest) =
      findEnd terminator ended (position + 1) rest := by
  cases terminator with
  | some own =>
    have other : c ≠ own := by simpa [ends] using quiet
    simp only [findEnd, if_neg other]
  | none =>
    have other : c ≠ '\n' ∧ c ≠ '\r' := by simpa [ends] using quiet
    simp only [findEnd, if_neg other.1, if_neg other.2]

theorem linesFrom_cons {terminator : Terminator} {c : Char} (quiet : ends terminator c = false)
    (sofar rest : List Char) :
    linesFrom terminator false sofar (c :: rest) =
      linesFrom terminator false (c :: sofar) rest := by
  cases terminator with
  | some own =>
    have other : c ≠ own := by simpa [ends] using quiet
    simp only [linesFrom, if_neg other]
  | none =>
    have other : c ≠ '\n' ∧ c ≠ '\r' := by simpa [ends] using quiet
    simp only [linesFrom, if_neg other.1, if_neg other.2]

theorem findEnd_quiet {terminator : Terminator} {line : List Char}
    (quiet : Quiet terminator line) (ended : Bool) (position : Nat) (rest : List Char) :
    findEnd terminator ended position (line ++ rest) =
      findEnd terminator ended (position + line.length) rest := by
  induction line generalizing position with
  | nil => rfl
  | cons c line ih =>
    rcases List.forall_mem_cons.mp quiet with ⟨here, others⟩
    have later := ih others (position + 1)
    rw [List.cons_append, findEnd_cons here, later, List.length_cons,
      Nat.add_right_comm, Nat.add_assoc]

theorem linesFrom_quiet {terminator : Terminator} {line : List Char}
    (quiet : Quiet terminator line) (sofar rest : List Char) :
    linesFrom terminator false sofar (line ++ rest) =
      linesFrom terminator false (line.reverse ++ sofar) rest := by
  induction line generalizing sofar with
  | nil => rfl
  | cons c line ih =>
    rcases List.forall_mem_cons.mp quiet with ⟨here, others⟩
    have later := ih others (c :: sofar)
    rw [List.cons_append, linesFrom_cons here, later, List.reverse_cons,
      List.append_assoc, List.singleton_append]

theorem splitLines_quiet {terminator : Terminator} {text : List Char}
    (quiet : Quiet terminator text) :
    splitLines terminator text = if text.isEmpty then [] else [text] := by
  have whole := linesFrom_quiet quiet [] []
  simp only [List.append_nil] at whole
  rw [splitLines, whole, linesFrom]
  simp

/-! ### Ends of lines -/

theorem linesFrom_terminated (terminator : Terminator) (sofar rest : List Char) :
    linesFrom terminator false sofar (terminator.getD '\n' :: rest) =
      sofar.reverse :: linesFrom terminator false [] rest := by
  cases terminator with
  | some own => simp [linesFrom]
  | none => simp [linesFrom]

/-- **Lines that are each followed by the terminator are the lines of their text.** -/
theorem splitLines_flatMap {terminator : Terminator} {lines : List (List Char)}
    (quiet : ∀ line ∈ lines, Quiet terminator line) :
    splitLines terminator (lines.flatMap fun line => line ++ [terminator.getD '\n']) = lines := by
  rw [splitLines]
  induction lines with
  | nil => rfl
  | cons line lines ih =>
    rcases List.forall_mem_cons.mp quiet with ⟨here, others⟩
    rw [List.flatMap_cons, List.append_assoc, linesFrom_quiet here, List.append_nil,
      List.singleton_append, linesFrom_terminated, List.reverse_reverse, ih others]

/-- After a carriage return, only a line feed makes a difference. -/
theorem linesFrom_afterReturn (text : List Char) (other : text.head? ≠ some '\n') :
    linesFrom none true [] text = linesFrom none false [] text := by
  cases text with
  | nil => rfl
  | cons c text =>
    have : c ≠ '\n' := by simpa using other
    simp [linesFrom, this]

/-- **What the search finds is the first line**, however the text goes on. -/
theorem splitLines_of_found {terminator : Terminator} {ended : Bool} {text : List Char}
    {stop next : Nat} (found : findEnd terminator ended 0 text = .found stop next)
    (more : List Char) (last : ended = true → more = []) :
    splitLines terminator (text ++ more) =
      text.take stop :: splitLines terminator (text.drop next ++ more) := by
  obtain ⟨line, rest, rfl, quiet, nothing | ⟨c, after, rfl, mark⟩⟩ := exists_quiet terminator text
  · rw [nothing, findEnd_quiet quiet] at found
    cases found
  · rw [findEnd_quiet quiet, Nat.zero_add] at found
    rw [splitLines, List.append_assoc, linesFrom_quiet quiet, List.append_nil, List.cons_append]
    cases terminator with
    | some own =>
      have same : c = own := by simpa [ends] using mark
      simp only [findEnd, same, if_true, Search.found.injEq] at found
      rcases found with ⟨rfl, rfl⟩
      simp [linesFrom, splitLines, same, List.drop_length_add_append]
    | none =>
      by_cases feed : c = '\n'
      · simp only [findEnd, feed, if_true, Search.found.injEq] at found
        rcases found with ⟨rfl, rfl⟩
        simp [linesFrom, splitLines, feed, List.drop_length_add_append]
      · have return_ : c = '\r' := by simpa [ends, feed] using mark
        subst return_
        cases after with
        | nil =>
          -- the return is the last character of the text at hand
          cases ended with
          | false => simp [findEnd] at found
          | true =>
            simp only [findEnd, feed, if_false, if_true, Search.found.injEq] at found
            rcases found with ⟨rfl, rfl⟩
            simp [linesFrom, splitLines, List.drop_length_add_append, last rfl]
        | cons d after =>
          by_cases pair : d = '\n'
          · subst pair
            simp only [findEnd, feed, if_false, if_true, Search.found.injEq] at found
            rcases found with ⟨rfl, rfl⟩
            simp [linesFrom, splitLines, List.drop_length_add_append]
          · have single : findEnd none ended line.length ('\r' :: d :: after)
                = .found line.length (line.length + 1) := by
              simp [findEnd]
            rw [single, Search.found.injEq] at found
            rcases found with ⟨rfl, rfl⟩
            have next := linesFrom_afterReturn (d :: (after ++ more)) (by simpa using pair)
            rw [linesFrom, List.drop_length_add_append]
            simpa [splitLines, pair] using next

/-- Where the search finds nothing, it has passed over quiet text, and over all of it if
    no more can come. -/
theorem quiet_of_unfinished {terminator : Terminator} {ended : Bool} {text : List Char}
    {resume : Nat} (unfinished : findEnd terminator ended 0 text = .unfinished resume) :
    resume ≤ text.length ∧ Quiet terminator (text.take resume)
      ∧ (ended = true → Quiet terminator text) := by
  obtain ⟨line, rest, rfl, quiet, nothing | ⟨c, after, rfl, mark⟩⟩ := exists_quiet terminator text
  · subst nothing
    rw [findEnd_quiet quiet, Nat.zero_add, findEnd, Search.unfinished.injEq] at unfinished
    subst unfinished
    simp [quiet]
  · rw [findEnd_quiet quiet, Nat.zero_add] at unfinished
    cases terminator with
    | some own =>
      have same : c = own := by simpa [ends] using mark
      simp [findEnd, same] at unfinished
    | none =>
      by_cases feed : c = '\n'
      · simp [findEnd, feed] at unfinished
      · have return_ : c = '\r' := by simpa [ends, feed] using mark
        subst return_
        cases after with
        | nil =>
          cases ended with
          | true => simp [findEnd] at unfinished
          | false =>
            simp only [findEnd, feed, if_false, if_true, Bool.false_eq_true,
              Search.unfinished.injEq] at unfinished
            subst unfinished
            simpa using quiet
        | cons d after =>
          by_cases pair : d = '\n'
          · subst pair
            simp [findEnd] at unfinished
          · simp [findEnd] at unfinished

/-! ### The characters of lines -/

theorem mem_of_mem_linesFrom {terminator : Terminator} {afterReturn : Bool}
    {sofar text line : List Char} (inside : line ∈ linesFrom terminator afterReturn sofar text)
    {c : Char} (member : c ∈ line) :
    c ∈ sofar ∨ c ∈ text ∧ ends terminator c = false := by
  induction text generalizing afterReturn sofar with
  | nil =>
    rw [linesFrom] at inside
    split at inside
    · cases inside
    · rw [List.mem_singleton.mp inside, List.mem_reverse] at member
      exact .inl member
  | cons d text ih =>
    -- A character of a line is one of the line so far or of those that are added to it.
    have stop {after : Bool} (inside : line ∈ sofar.reverse :: linesFrom terminator after [] text) :
        c ∈ sofar ∨ c ∈ d :: text ∧ ends terminator c = false := by
      rcases List.mem_cons.mp inside with rfl | inside
      · exact .inl (List.mem_reverse.mp member)
      · rcases ih inside with none_yet | ⟨found, quiet⟩
        · cases none_yet
        · exact .inr ⟨List.mem_cons_of_mem _ found, quiet⟩
    have grow (quiet : ends terminator d = false)
        (inside : line ∈ linesFrom terminator false (d :: sofar) text) :
        c ∈ sofar ∨ c ∈ d :: text ∧ ends terminator c = false := by
      rcases ih inside with found | ⟨found, quiet'⟩
      · rcases List.mem_cons.mp found with rfl | found
        · exact .inr ⟨List.mem_cons_self, quiet⟩
        · exact .inl found
      · exact .inr ⟨List.mem_cons_of_mem _ found, quiet'⟩
    rw [linesFrom.eq_def] at inside
    cases terminator with
    | some own =>
      simp only at inside
      split at inside
      · exact stop inside
      · rename_i other
        exact grow (by simpa [ends] using other) inside
    | none =>
      simp only at inside
      split at inside
      · split at inside
        · rcases ih inside with none_yet | ⟨found, quiet⟩
          · cases none_yet
          · exact .inr ⟨List.mem_cons_of_mem _ found, quiet⟩
        · exact stop inside
      · rename_i feed
        split at inside
        · exact stop inside
        · rename_i return_
          exact grow (by simp [ends, feed, return_]) inside

/-- **The lines of a text** are made of its characters, but of none that ends a line. -/
theorem mem_of_mem_splitLines {terminator : Terminator} {text line : List Char}
    (inside : line ∈ splitLines terminator text) {c : Char} (member : c ∈ line) :
    c ∈ text ∧ ends terminator c = false := by
  rcases mem_of_mem_linesFrom inside member with none_yet | found
  · cases none_yet
  · exact found

end FlatFile.Line
