/-
  FlatFile/Proofs/Markup/Attributes.lean
  ======================================
  **The attributes of a written tag are read back.**

  A reader of attributes skips what it has met before, so a tag says all that was
  written into it exactly if no name comes twice (`attributes_flatMap_render`).
-/
import FlatFile.Markup.Element
import FlatFile.Proofs.Markup.Escaping
import FlatFile.Proofs.Markup.Names

namespace FlatFile.Markup

/-- An attribute that can be written: it has a name, and its value holds no quote. -/
structure Attribute.WellFormed (written : Attribute) : Prop where
  name : isName written.name = true
  value : '"' ∉ written.value

theorem wellFormed_ofText {name : List Char} (named : isName name = true) (text : List Char) :
    (Attribute.ofText name text).WellFormed :=
  ⟨named, quote_not_mem_escape text⟩

/-! ### One attribute -/

theorem attributesFrom_name {name : List Char} (named : ∀ c ∈ name, isNameChar c = true)
    (used : NameSet) (key rest : List Char) :
    attributesFrom used (.key key) (name ++ rest) =
      attributesFrom used (.key (name.reverse ++ key)) rest := by
  induction name generalizing key with
  | nil => rfl
  | cons c name ih =>
    rcases List.forall_mem_cons.mp named with ⟨here, others⟩
    have equals : c ≠ '=' := ne_of_isNameChar here (by decide)
    rw [List.cons_append, attributesFrom, if_neg equals, isMarkupBlank_of_isNameChar here]
    simpa using ih others (c :: key)

theorem attributesFrom_value {value : List Char} (unquoted : '"' ∉ value) (used : NameSet)
    (key seen rest : List Char) :
    attributesFrom used (.value key '"' seen) (value ++ '"' :: rest) =
      (key.reverse, seen.reverse ++ value) :: attributesFrom used .between rest := by
  induction value generalizing seen with
  | nil => rw [List.nil_append, attributesFrom, if_pos rfl, List.append_nil]
  | cons c value ih =>
    rw [List.mem_cons, not_or] at unquoted
    rcases unquoted with ⟨other, others⟩
    rw [List.cons_append, attributesFrom, if_neg (Ne.symm other), ih others]
    simp

/-- **An attribute whose name was not met before is read as it was written.** -/
theorem attributesFrom_render {written : Attribute} (wellFormed : written.WellFormed)
    {used : NameSet} (unused : used.contains written.name.reverse = false) (rest : List Char) :
    attributesFrom used .between (written.render ++ rest) =
      (written.name, written.value)
        :: attributesFrom (used.insert written.name.reverse) .between rest := by
  rcases isName_iff.mp wellFormed.name with ⟨c, others, name, -, named⟩
  have text : written.render ++ rest =
      ' ' :: c :: (others ++ '=' :: '"' :: (written.value ++ '"' :: rest)) := by
    simp [Attribute.render, name]
  rw [name] at named
  rcases List.forall_mem_cons.mp named with ⟨first, tail⟩
  have start : isMarkupBlank c = false := isMarkupBlank_of_isNameChar first
  have key : others.reverse ++ [c] = written.name.reverse := by rw [name, List.reverse_cons]
  rw [text, attributesFrom, if_pos (by decide), attributesFrom, start]
  simp only [Bool.false_eq_true, if_false]
  rw [attributesFrom_name tail, key, attributesFrom, if_pos rfl]
  simp only [AttributeScan.afterEquals, unused, Bool.false_eq_true, if_false]
  rw [attributesFrom, if_neg (by decide), if_pos (.inl rfl), attributesFrom_value wellFormed.value]
  simp

/-! ### All attributes -/

theorem attributesFrom_flatMap {attributes : List Attribute}
    (wellFormed : ∀ written ∈ attributes, written.WellFormed)
    (distinct : (attributes.map Attribute.name).Nodup) {used : NameSet}
    (unused : ∀ written ∈ attributes, used.contains written.name.reverse = false) :
    attributesFrom used .between (attributes.flatMap Attribute.render) =
      attributes.map fun written => (written.name, written.value) := by
  induction attributes generalizing used with
  | nil => rfl
  | cons written attributes ih =>
    rw [List.map_cons, List.nodup_cons] at distinct
    rcases List.forall_mem_cons.mp wellFormed with ⟨formed, formed'⟩
    rcases List.forall_mem_cons.mp unused with ⟨free, free'⟩
    rw [List.flatMap_cons, attributesFrom_render formed free, List.map_cons]
    apply congrArg
    apply ih formed' distinct.2
    intro other inside
    have different : other.name ≠ written.name := by
      intro same
      exact distinct.1 (same ▸ List.mem_map_of_mem inside)
    rw [NameSet.contains_insert, free' other inside, Bool.or_false]
    simpa using different

/-- **The attributes of a tag are those that were written**, if no name comes twice. -/
theorem attributes_flatMap_render {attributes : List Attribute}
    (wellFormed : ∀ written ∈ attributes, written.WellFormed)
    (distinct : (attributes.map Attribute.name).Nodup) (name : List Char) :
    Tag.attributes ⟨name, attributes.flatMap Attribute.render⟩ =
      attributes.map fun written => (written.name, written.value) :=
  attributesFrom_flatMap wellFormed distinct fun _ _ => NameSet.contains_empty _

/-! ### Tags -/

theorem takeWhile_renderHead {name : List Char} (named : ∀ c ∈ name, isNameChar c = true)
    (attributes : List Attribute) :
    Tag.ofContent (renderHead name attributes) = ⟨name, attributes.flatMap Attribute.render⟩ := by
  have unblank : ∀ c ∈ name, (!isMarkupBlank c) = true := fun c inside => by
    rw [isMarkupBlank_of_isNameChar (named c inside), Bool.not_false]
  have stop : (attributes.flatMap Attribute.render).takeWhile (!isMarkupBlank ·) = []
      ∧ (attributes.flatMap Attribute.render).dropWhile (!isMarkupBlank ·) =
        attributes.flatMap Attribute.render := by
    cases attributes with
    | nil => exact ⟨rfl, rfl⟩
    | cons written attributes => exact ⟨rfl, rfl⟩
  rw [Tag.ofContent, renderHead, List.takeWhile_append_of_pos unblank,
    List.dropWhile_append_of_pos unblank, stop.1, stop.2, List.append_nil]

end FlatFile.Markup
