/-
  FlatFile/Proofs/Column/Leftmost.lean
  ====================================
  **Where a line is divided by a separator.**

  Occurrences of a separator may overlap, so a text can often be divided by it in several
  ways.  The tokens are those of the one way in which each cut is made at the first
  occurrence behind the cut before (`Text.Divided`, `Text.divided_split`).  All that is
  said here of tokens is read off from there: no token has the separator in it, and the cuts
  are the occurrences that are left when each one rules out those that begin inside of it
  (`Text.Leftmost`), of which there is just one list (`Text.Leftmost.unique`).

  So a delimited line has one column more than such occurrences, all of them set
  (`ColumnLayout.delimited_leftmost`).  Under a separator of one character nothing overlaps,
  and columns without it are read back from the line that is joined of them.
-/
import FlatFile.Proofs.Column.Refit

namespace FlatFile

namespace Text

variable {separator text token : List Char} {tokens : List (List Char)}

/-! ### Occurrences -/

/-- The separator stands in a text behind so many characters. -/
def OccursAt (separator text : List Char) (position : Nat) : Prop :=
  separator <+: text.drop position

/-- The separator stands there for the first time. -/
def FirstAt (separator text : List Char) (position : Nat) : Prop :=
  OccursAt separator text position ∧ ∀ earlier < position, ¬ OccursAt separator text earlier

/-- **The leftmost occurrences that do not overlap**: any occurrence is one of them or begins
    inside of one. -/
structure Leftmost (separator text : List Char) (positions : List Nat) : Prop where
  occurs : ∀ position ∈ positions, OccursAt separator text position
  apart : positions.Pairwise fun position next => position + separator.length ≤ next
  covers : ∀ position, OccursAt separator text position →
    ∃ chosen ∈ positions, chosen ≤ position ∧ position < chosen + separator.length

theorem OccursAt.isInfix {position : Nat} (occurs : OccursAt separator text position) :
    separator <:+: text :=
  (List.IsPrefix.isInfix occurs).trans (List.drop_suffix position text).isInfix

theorem exists_occursAt (inside : separator <:+: text) :
    ∃ position, OccursAt separator text position := by
  obtain ⟨before, after, whole⟩ := inside
  refine ⟨before.length, after, ?_⟩
  rw [← whole, List.append_assoc, List.drop_left]

theorem OccursAt.lt_length (nonempty : separator ≠ []) {position : Nat}
    (occurs : OccursAt separator text position) : position < text.length := by
  rw [← Nat.not_le]
  intro outside
  rw [OccursAt, List.drop_eq_nil_of_le outside, List.prefix_nil] at occurs
  exact nonempty occurs

theorem occursAt_append (before text : List Char) (position : Nat) :
    OccursAt separator (before ++ text) (before.length + position)
      ↔ OccursAt separator text position := by
  rw [OccursAt, List.drop_length_add_append, OccursAt]

theorem Leftmost.le_of_lt {positions : List Nat} (leftmost : Leftmost separator text positions)
    {position next : Nat} (inside : position ∈ positions) (inside' : next ∈ positions)
    (lt : position < next) : position + separator.length ≤ next := by
  obtain ⟨i, within, rfl⟩ := List.mem_iff_getElem.mp inside
  obtain ⟨j, within', rfl⟩ := List.mem_iff_getElem.mp inside'
  have ordered := List.pairwise_iff_getElem.mp leftmost.apart
  rcases Nat.lt_trichotomy i j with before | same | behind
  · exact ordered i j within within' before
  · subst same
    exact absurd lt (Nat.lt_irrefl _)
  · have apart := ordered j i within' within behind
    omega

/-- What both lists have before a position decides whether it can be in one of them only. -/
theorem Leftmost.mem_of_mem {positions others : List Nat}
    (leftmost : Leftmost separator text positions) (other : Leftmost separator text others)
    {position : Nat} (before : ∀ earlier < position, earlier ∈ others → earlier ∈ positions)
    (inside : position ∈ positions) : position ∈ others := by
  obtain ⟨chosen, member, le, within⟩ := other.covers position (leftmost.occurs position inside)
  rcases Nat.lt_or_eq_of_le le with earlier | same
  · -- The one chosen is in both lists, and nothing in them begins inside of it.
    have beyond := leftmost.le_of_lt (before chosen earlier member) inside earlier
    exact absurd within (Nat.not_lt_of_le beyond)
  · rwa [← same]

/-- **There is one list of leftmost occurrences.** -/
theorem Leftmost.unique (nonempty : separator ≠ []) {positions others : List Nat}
    (leftmost : Leftmost separator text positions) (other : Leftmost separator text others) :
    positions = others := by
  have same : ∀ position, position ∈ positions ↔ position ∈ others := by
    intro position
    induction position using Nat.strong_induction_on with
    | _ position ih =>
      exact ⟨leftmost.mem_of_mem other fun earlier lt => (ih earlier lt).mpr,
        other.mem_of_mem leftmost fun earlier lt => (ih earlier lt).mp⟩
  have some_width := List.length_pos_of_ne_nil nonempty
  have ordered : ∀ {list : List Nat}, Leftmost separator text list →
      list.Pairwise fun position next => position < next :=
    fun leftmost => leftmost.apart.imp fun apart => by omega
  have perm := (List.perm_ext_iff_of_nodup ((ordered leftmost).imp Nat.ne_of_lt)
    ((ordered other).imp Nat.ne_of_lt)).mpr same
  exact perm.eq_of_pairwise (fun _ _ _ _ lt lt' => absurd lt (Nat.lt_asymm lt')) (ordered leftmost)
    (ordered other)

/-! ### Tokens -/

/-- **A text divided at the first occurrence of a separator**, and again in what is behind it. -/
inductive Divided (separator : List Char) : List Char → List (List Char) → Prop where
  | last {token : List Char} (clear : ¬ separator <:+: token) : Divided separator token [token]
  | cut {token rest : List Char} {tokens : List (List Char)}
      (first : FirstAt separator (token ++ (separator ++ rest)) token.length)
      (more : Divided separator rest tokens) :
      Divided separator (token ++ (separator ++ rest)) (token :: tokens)

theorem splitFrom_skip (separator : List Char) (skip : Nat) (token text : List Char) :
    splitFrom separator skip token text = splitFrom separator 0 token (text.drop skip) := by
  induction text generalizing skip with
  | nil =>
    rw [List.drop_nil]
    cases skip with
    | zero => rfl
    | succ skip => rfl
  | cons c rest ih =>
    cases skip with
    | zero => rfl
    | succ skip => rw [splitFrom, ih, List.drop_succ_cons]

/-- The token at hand, in which no occurrence begins, and what is still to be divided. -/
theorem divided_splitFrom (nonempty : separator ≠ []) (token text : List Char)
    (clear : ∀ position < token.length, ¬ OccursAt separator (token.reverse ++ text) position) :
    Divided separator (token.reverse ++ text) (splitFrom separator 0 token text) := by
  -- A cut passes over more than one character at once, so the induction is on the length.
  induction length : text.length using Nat.strong_induction_on generalizing token text with
  | _ length ih =>
    cases text with
    | nil =>
      rw [List.append_nil] at clear ⊢
      rw [splitFrom]
      refine .last ?_
      intro inside
      obtain ⟨position, occurs⟩ := exists_occursAt inside
      have within := occurs.lt_length nonempty
      rw [List.length_reverse] at within
      exact clear position within occurs
    | cons c rest =>
      rw [List.length_cons] at length
      rw [splitFrom]
      split
      · rename_i found
        have prefixed := List.isPrefixOf_iff_prefix.mp found
        obtain ⟨n, width⟩ : ∃ n, separator.length = n + 1 :=
          Nat.exists_eq_succ_of_ne_zero fun none => nonempty (List.eq_nil_of_length_eq_zero none)
        have behind : separator ++ rest.drop n = c :: rest := by
          have occurrence := List.prefix_iff_eq_append.mp prefixed
          rwa [width, List.drop_succ_cons] at occurrence
        have more := ih (rest.drop n).length (by rw [List.length_drop]; omega) [] (rest.drop n)
          (fun position within => absurd within (Nat.not_lt_zero position)) rfl
        rw [splitFrom_skip, width, Nat.add_sub_cancel, ← behind]
        refine .cut ⟨?_, ?_⟩ more
        · have here := @occursAt_append separator token.reverse (c :: rest) 0
          rw [behind]
          exact here.mpr prefixed
        · rw [List.length_reverse, behind]
          exact clear
      · rename_i other
        have more := ih rest.length (by omega) (c :: token) rest
        rw [List.reverse_cons, List.append_assoc, List.singleton_append] at more
        refine more ?_ rfl
        intro position within occurs
        rcases Nat.lt_succ_iff_lt_or_eq.mp within with earlier | same
        · exact clear position earlier occurs
        · rw [same, ← List.length_reverse] at occurs
          exact other (List.isPrefixOf_iff_prefix.mpr
            ((occursAt_append token.reverse (c :: rest) 0).mp occurs))

/-- **Splitting divides a text at first occurrences.** -/
theorem divided_split (nonempty : separator ≠ []) (text : List Char) :
    Divided separator text (split separator text) := by
  rw [split, if_neg (by simpa using nonempty)]
  exact divided_splitFrom nonempty [] text fun position within =>
    absurd within (Nat.not_lt_zero position)

theorem FirstAt.clear {rest : List Char} (nonempty : separator ≠ [])
    (first : FirstAt separator (token ++ rest) token.length) : ¬ separator <:+: token := by
  intro inside
  obtain ⟨position, occurs⟩ := exists_occursAt inside
  have within := occurs.lt_length nonempty
  refine first.2 position within ?_
  rw [OccursAt, List.drop_append_of_le_length (Nat.le_of_lt within)]
  exact occurs.trans (List.prefix_append _ _)

theorem Divided.clear (nonempty : separator ≠ []) (divided : Divided separator text tokens) :
    ∀ token ∈ tokens, ¬ separator <:+: token := by
  induction divided with
  | last clear => simpa using clear
  | cut first more ih => exact List.forall_mem_cons.mpr ⟨first.clear nonempty, ih⟩

/-- What stands behind some tokens begins with the next one, and has the separator for the first
    time behind that. -/
theorem Divided.first (divided : Divided separator text tokens) {before after : List (List Char)}
    (split : tokens = before ++ token :: after) (goes_on : after ≠ []) :
    ∃ rest, text = before.flatMap (· ++ separator) ++ rest ∧ token <+: rest
      ∧ FirstAt separator rest token.length := by
  induction divided generalizing before with
  | last =>
    cases before with
    | nil => exact absurd (List.cons.inj split).2.symm goes_on
    | cons other before => simp at split
  | @cut first rest tokens firstAt more ih =>
    cases before with
    | nil =>
      obtain ⟨rfl, -⟩ := List.cons.inj split
      exact ⟨_, rfl, List.prefix_append _ _, firstAt⟩
    | cons other before =>
      obtain ⟨rfl, later⟩ := List.cons.inj split
      obtain ⟨rest', whole, begins, firstAt'⟩ := ih later
      refine ⟨rest', ?_, begins, firstAt'⟩
      rw [List.flatMap_cons, whole, List.append_assoc, List.append_assoc]

/-- **There is one token more than leftmost occurrences.** -/
theorem Divided.exists_leftmost (divided : Divided separator text tokens) :
    ∃ positions, Leftmost separator text positions ∧ tokens.length = positions.length + 1 := by
  induction divided with
  | last clear =>
    refine ⟨[], ⟨nofun, .nil, ?_⟩, rfl⟩
    intro position occurs
    exact absurd occurs.isInfix clear
  | @cut token rest tokens first more ih =>
    obtain ⟨positions, leftmost, count⟩ := ih
    -- The other occurrences are those of the rest, which begins behind the first one.
    have shifted (position : Nat) :
        OccursAt separator (token ++ (separator ++ rest))
            (token.length + separator.length + position) ↔ OccursAt separator rest position := by
      rw [Nat.add_assoc, occursAt_append, occursAt_append]
    refine ⟨token.length :: positions.map (token.length + separator.length + ·), ⟨?_, ?_, ?_⟩, ?_⟩
    · intro position inside
      rcases List.mem_cons.mp inside with rfl | inside
      · exact first.1
      · obtain ⟨later, member, rfl⟩ := List.mem_map.mp inside
        exact (shifted later).mpr (leftmost.occurs later member)
    · refine List.pairwise_cons.mpr ⟨?_, ?_⟩
      · intro position inside
        obtain ⟨later, -, rfl⟩ := List.mem_map.mp inside
        omega
      · rw [List.pairwise_map]
        exact leftmost.apart.imp fun apart => by omega
    · intro position occurs
      rcases Nat.lt_or_ge position token.length with earlier | reached
      · exact absurd occurs (first.2 position earlier)
      · rcases Nat.lt_or_ge position (token.length + separator.length) with within | behind
        · exact ⟨token.length, List.mem_cons_self, reached, within⟩
        · obtain ⟨later, rfl⟩ := Nat.exists_eq_add_of_le behind
          obtain ⟨chosen, member, le, within⟩ := leftmost.covers later ((shifted later).mp occurs)
          exact ⟨_, List.mem_cons_of_mem _ (List.mem_map_of_mem member), by omega, by omega⟩
    · rw [List.length_cons, List.length_cons, List.length_map, count]

end Text

/-! ### Delimited columns -/

/-- **The tokens of a line between the leftmost occurrences of a separator.** -/
structure Text.Tokens (separator line : List Char) (tokens : List (List Char)) : Prop where
  joined : join separator tokens = line
  /-- No token has the separator in it. -/
  clear : ∀ token ∈ tokens, ¬ separator <:+: token
  /-- What stands behind some tokens begins with the next one, and has the separator for the first
      time right behind that, unless it is the last one. -/
  first : ∀ before token after, tokens = before ++ token :: after → after ≠ [] →
    ∃ rest, line = before.flatMap (· ++ separator) ++ rest ∧ token <+: rest
      ∧ FirstAt separator rest token.length
  /-- There is one token more than leftmost occurrences, which only one list holds. -/
  count : ∃ positions, (∀ others, Leftmost separator line others ↔ others = positions)
    ∧ tokens.length = positions.length + 1

theorem Text.tokens_split {separator : List Char} (nonempty : separator ≠ []) (line : List Char) :
    Tokens separator line (split separator line) := by
  have divided := divided_split nonempty line
  refine ⟨join_split nonempty line, divided.clear nonempty, ?_, ?_⟩
  · intro before token after split goes_on
    exact divided.first split goes_on
  · obtain ⟨positions, leftmost, count⟩ := divided.exists_leftmost
    refine ⟨positions, ?_, count⟩
    intro others
    constructor
    · intro other
      exact other.unique nonempty leftmost
    · rintro rfl
      exact leftmost

/-- **Delimited columns are the tokens between the leftmost occurrences of the separator**, all of
    them set.  If the separator is one character, columns without it are those of the line that is
    joined of them. -/
theorem ColumnLayout.delimited_leftmost {separator : List Char} (nonempty : separator ≠ []) :
    (∀ line ≠ [], ∃ tokens, columns (.delimited separator) line = .ok (some (tokens.map some))
        ∧ Text.Tokens separator line tokens)
      ∧ ∀ c, separator = [c] → ∀ tokens : List (List Char), tokens ≠ [] →
        (∀ token ∈ tokens, c ∉ token) → Text.join separator tokens ≠ [] →
        columns (.delimited separator) (Text.join separator tokens) =
          .ok (some (tokens.map some)) := by
  have divided {line : List Char} (filled : line ≠ []) :
      columns (.delimited separator) line =
        .ok (some ((Text.split separator line).map some)) := by
    rw [columns, if_neg (by simpa using filled)]
  constructor
  · intro line filled
    exact ⟨_, divided filled, Text.tokens_split nonempty line⟩
  · rintro c rfl tokens some_token apart filled
    rw [divided filled, Text.split_join some_token apart]

/-- A separator that overlaps itself, at both ends of the line and next to its last token, and
    empty columns around a separator of one character. -/
theorem ColumnLayout.delimited_leftmost_overlapping :
    (['a', 'a'] ≠ ([] : List Char) ∧ "aaaxaaa".toList ≠ []
        ∧ ∃ tokens, columns (.delimited ['a', 'a']) "aaaxaaa".toList = .ok (some (tokens.map some))
          ∧ Text.Tokens ['a', 'a'] "aaaxaaa".toList tokens
          ∧ tokens = [[], ['a', 'x'], ['a']])
      ∧ ([';'] ≠ ([] : List Char) ∧ (∀ token ∈ [[], ['é'], [], []], ';' ∉ token)
        ∧ columns (.delimited [';']) (Text.join [';'] [[], ['é'], [], []]) =
          .ok (some ([[], ['é'], [], []].map some))) := by
  refine ⟨⟨by decide, by decide, ?_⟩, by decide, by decide, ?_⟩
  · obtain ⟨tokens, divided, leftmost⟩ := (delimited_leftmost (show ['a', 'a'] ≠ [] by decide)).1
      "aaaxaaa".toList (by decide)
    refine ⟨tokens, divided, leftmost, ?_⟩
    have run : columns (.delimited ['a', 'a']) "aaaxaaa".toList =
        .ok (some [some [], some ['a', 'x'], some ['a']]) := rfl
    have same := Option.some.inj (Except.ok.inj (divided.symm.trans run))
    rw [← Columns.getD_some tokens, same]
    rfl
  · exact (delimited_leftmost (show [';'] ≠ [] by decide)).2 ';' rfl _ (by decide) (by decide)
      (by decide)

end FlatFile
