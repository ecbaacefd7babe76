/-
  FlatFile/Proofs/Recovery/Overflow.lean
  ======================================
  **How far positions may go before they no longer are words.**

  A recovery adds one to a position in two places: behind a column that is put in, and behind the
  last column of a line.  `sums` tells these sums as they are before they become words
  (`Record.following_addColumn`, `Record.width_eq`).

  Where columns go is decided by marks: a line element starts, a column tells its position, or a
  column takes the following one.  Counted without a bound (`reached`), positions grow only by
  columns of the last kind.  As long as the sums are words, the position at hand is the one that is
  counted (`Record.At`), so the first sum that is no word belongs to a stretch of such columns that
  leads too far (`reached_lt_iff`).  A position that is told always leaves room for one more.
-/
import FlatFile.Charset.AsciiOnly
import FlatFile.Proofs.Recovery.Order
import FlatFile.Proofs.Recovery.Parts

namespace FlatFile

open Markup

/-! ### Sums -/

namespace Record

/-- The position behind a column that is put in, before it becomes a word. -/
def addSum (record : Record) (told : Option UInt64) : Nat :=
  (told.getD record.following).toNat + 1

theorem following_addColumn (record : Record) (told : Option UInt64) (raw : List Char) :
    (record.addColumn told raw).following = UInt64.ofNat (record.addSum told) := by
  rw [addSum, UInt64.ofNat_add, UInt64.ofNat_toNat]
  rfl

/-- The positions behind some columns that are put in, one after the other. -/
def addSums (record : Record) : List Sighting → List Nat
  | [] => []
  | column :: columns =>
    record.addSum column.1 :: (record.addColumn column.1 column.2).addSums columns

/-- The position behind the last column, before it becomes a word; there is none without columns. -/
def widthSums (record : Record) : List Nat :=
  record.columns.head?.toList.map fun column => column.1.toNat + 1

theorem width_eq {record : Record} {sum : Nat} (told : sum ∈ record.widthSums) :
    record.width = sum % UInt64.size := by
  unfold widthSums at told
  unfold width
  cases held : record.columns with
  | nil =>
    rw [held] at told
    cases told
  | cons column columns =>
    rw [held] at told
    rw [List.mem_singleton.mp told]
    exact UInt64.toNat_add column.1 1

end Record

/-! ### Marks -/

/-- What decides where columns go. -/
inductive Mark where
  /-- A line element starts. -/
  | line
  /-- A column tells its position. -/
  | located (position : UInt64)
  /-- A column takes the following position. -/
  | following
deriving DecidableEq, Repr

namespace Mark

def ofTold : Option UInt64 → Mark
  | some position => .located position
  | none => .following

/-- The following position after a mark, counted without a bound. -/
def next (before : Nat) : Mark → Nat
  | .line => 0
  | .located position => position.toNat + 1
  | .following => before + 1

/-- The following positions after some marks, one for each of them. -/
def reached (before : Nat) : List Mark → List Nat
  | [] => []
  | mark :: marks => mark.next before :: reached (mark.next before) marks

/-- The following position after all of some marks. -/
def last (before : Nat) (marks : List Mark) : Nat := marks.foldl next before

theorem reached_append (before : Nat) (marks more : List Mark) :
    reached before (marks ++ more) = reached before marks ++ reached (last before marks) more := by
  induction marks generalizing before with
  | nil => rfl
  | cons mark marks ih => exact congrArg (mark.next before :: ·) (ih (mark.next before))

/-- Columns that take the following position, at the start of some marks, have room for one more. -/
def HasRoom (before : Nat) (marks : List Mark) : Prop :=
  ∀ count after, marks = List.replicate count .following ++ after →
    before + count < UInt64.size

/-- **Every stretch of columns that take the following position has room for one more**, from the
    start of a line element or a column that tells its position.  Where such a mark leads does not
    depend on what comes before it. -/
def HasRoomEverywhere (marks : List Mark) : Prop :=
  ∀ before mark after, marks = before ++ mark :: after → mark ≠ .following →
    HasRoom (mark.next 0) after

theorem hasRoom_following {before : Nat} {marks : List Mark} :
    HasRoom before (.following :: marks) ↔
      before < UInt64.size ∧ HasRoom (before + 1) marks := by
  constructor
  · intro room
    refine ⟨room 0 _ rfl, ?_⟩
    intro count after split
    have more := room (count + 1) after (by rw [List.replicate_succ, split]; rfl)
    omega
  · rintro ⟨here, room⟩ count after split
    cases count with
    | zero => exact here
    | succ count =>
      rw [List.replicate_succ, List.cons_append] at split
      have more := room count after (List.cons.inj split).2
      omega

theorem hasRoom_of_ne {before : Nat} {mark : Mark} (other : mark ≠ .following)
    (marks : List Mark) : HasRoom before (mark :: marks) ↔ before < UInt64.size := by
  constructor
  · intro room
    exact room 0 _ rfl
  · rintro here count after split
    cases count with
    | zero => exact here
    | succ count =>
      rw [List.replicate_succ, List.cons_append] at split
      exact absurd (List.cons.inj split).1 other

theorem hasRoomEverywhere_cons {mark : Mark} {marks : List Mark} :
    HasRoomEverywhere (mark :: marks) ↔
      (mark ≠ .following → HasRoom (mark.next 0) marks) ∧ HasRoomEverywhere marks := by
  constructor
  · intro room
    refine ⟨room [] mark marks rfl, ?_⟩
    intro before other after split
    exact room (mark :: before) other after (congrArg (mark :: ·) split)
  · rintro ⟨here, room⟩ before other after split different
    cases before with
    | nil =>
      obtain ⟨rfl, rfl⟩ := List.cons.inj split
      exact here different
    | cons first before => exact room before other after (List.cons.inj split).2 different

/-- Marks that tell small positions only have room everywhere if there are few of them. -/
theorem hasRoomEverywhere_of_few {most : Nat} {marks : List Mark}
    (small : ∀ position, .located position ∈ marks → position.toNat < most)
    (few : most + marks.length ≤ UInt64.size) : HasRoomEverywhere marks := by
  rintro before mark _ split other count after rfl
  have length := congrArg List.length split
  rw [List.length_append, List.length_cons, List.length_append, List.length_replicate] at length
  have start : mark.next 0 ≤ most := by
    cases mark with
    | line => exact Nat.zero_le _
    | located position =>
      apply small
      rw [split]
      exact List.mem_append_right _ List.mem_cons_self
    | following => exact absurd rfl other
  omega

/-- **Positions stay within bounds if every stretch has room.** -/
theorem reached_lt_iff (before : Nat) (marks : List Mark) :
    (before < UInt64.size ∧ ∀ position ∈ reached before marks, position < UInt64.size) ↔
      HasRoom before marks ∧ HasRoomEverywhere marks := by
  induction marks generalizing before with
  | nil =>
    constructor
    · rintro ⟨here, -⟩
      constructor
      · intro count after split
        cases count with
        | zero => exact here
        | succ count => cases split
      · intro first mark after split
        cases first <;> cases split
    · rintro ⟨room, -⟩
      exact ⟨room 0 [] rfl, nofun⟩
  | cons mark marks ih =>
    rw [reached, List.forall_mem_cons, ih, hasRoomEverywhere_cons]
    by_cases following : mark = .following
    · subst following
      rw [hasRoom_following]
      constructor
      · rintro ⟨here, room, everywhere⟩
        exact ⟨⟨here, room⟩, fun other => absurd rfl other, everywhere⟩
      · rintro ⟨⟨here, room⟩, -, everywhere⟩
        exact ⟨here, room, everywhere⟩
    · have same : mark.next before = mark.next 0 := by
        cases mark with
        | line => rfl
        | located position => rfl
        | following => exact absurd rfl following
      rw [hasRoom_of_ne following, same]
      constructor
      · rintro ⟨here, room, everywhere⟩
        exact ⟨here, fun _ => room, everywhere⟩
      · rintro ⟨here, room, everywhere⟩
        exact ⟨here, room following, everywhere⟩

end Mark

/-! ### Columns that are put in -/

namespace Record

/-- **A record whose positions are still those that are counted**: the following one is this one,
    and there is room behind every column. -/
structure At (record : Record) (position : Nat) : Prop where
  following : record.following.toNat = position
  room : ∀ column ∈ record.columns, column.1.toNat + 1 < UInt64.size

variable {record : Record} {position : Nat}

theorem at_empty : At {} 0 := ⟨rfl, nofun⟩

theorem At.addText (at_position : record.At position) (raw : List Char) :
    (record.addText raw).At position :=
  ⟨at_position.following, at_position.room⟩

theorem At.addSum (at_position : record.At position) (told : Option UInt64) :
    record.addSum told = (Mark.ofTold told).next position := by
  cases told with
  | none => exact congrArg (· + 1) at_position.following
  | some other => rfl

theorem At.addColumn {told : Option UInt64} (fits : record.addSum told < UInt64.size)
    (at_position : record.At position) (raw : List Char) :
    (record.addColumn told raw).At ((Mark.ofTold told).next position) := by
  constructor
  · rw [following_addColumn, UInt64.toNat_ofNat_of_lt' fits, at_position.addSum]
  · intro column inside
    rcases mem_placeColumn inside with rfl | inside
    · exact fits
    · exact at_position.room column inside

/-- **The sums of some columns are words if the positions that are counted are**, and then these
    are the positions that the record has. -/
theorem At.addSums_lt_iff (at_position : record.At position) (columns : List Sighting) :
    (∀ sum ∈ record.addSums columns, sum < UInt64.size) ↔
      ∀ other ∈ Mark.reached position (columns.map fun column => Mark.ofTold column.1),
        other < UInt64.size := by
  induction columns generalizing record position with
  | nil => exact ⟨nofun, nofun⟩
  | cons column columns ih =>
    rw [addSums, List.map_cons, Mark.reached, List.forall_mem_cons, List.forall_mem_cons,
      ← at_position.addSum]
    apply and_congr_right
    intro fits
    have added := at_position.addColumn fits column.2
    rw [← at_position.addSum] at added
    exact ih added

theorem At.addColumns (at_position : record.At position) {columns : List Sighting}
    (fits : ∀ sum ∈ record.addSums columns, sum < UInt64.size) :
    (record.addColumns columns).At
      (Mark.last position (columns.map fun column => Mark.ofTold column.1)) := by
  induction columns generalizing record position with
  | nil => exact at_position
  | cons column columns ih =>
    obtain ⟨here, others⟩ := List.forall_mem_cons.mp fits
    exact ih (at_position.addColumn here column.2) others

theorem At.widthSums_lt (at_position : record.At position) :
    ∀ sum ∈ record.widthSums, sum < UInt64.size := by
  intro sum inside
  obtain ⟨column, first, rfl⟩ := List.mem_map.mp inside
  exact at_position.room column (List.mem_of_mem_head? (Option.mem_toList.mp first))

end Record

namespace Recovery

open Record

variable {recovery : Recovery} {state : RecoveryState}

/-! ### Events -/

/-- The columns in the attributes of a tag. -/
def attributeColumns (recovery : Recovery) (tag : Tag) : List Sighting :=
  (tag.attributes.filter fun (key, _) => !isReserved key).map fun (key, value) =>
    (recovery.positionOfName? key, value)

theorem opened_eq_addColumns (recovery : Recovery) (tag : Tag) :
    recovery.opened tag = Record.addColumns {} (recovery.attributeColumns tag) :=
  recovery.opened_eq ⟨tag, none⟩

/-- **The sums that an event leads to.** -/
def sums (recovery : Recovery) (progress : Progress) : Event → List Nat
  | .start tag =>
    match progress.record with
    | none =>
      if recovery.isLineName tag.name then Record.addSums {} (recovery.attributeColumns tag) else []
    | some _ => []
  | .empty tag =>
    match progress.record with
    | none =>
      if recovery.isLineName tag.name then
        Record.addSums {} (recovery.attributeColumns tag) ++ (recovery.opened tag).widthSums
      else []
    | some record => [record.addSum (recovery.positionOfTag? tag)]
  | .finish name =>
    match progress.column, progress.record with
    | some (told, _), some record => [record.addSum told]
    | none, some record => if recovery.isLineName name then record.widthSums else []
    | _, none => []
  | _ => []

/-- The marks of a line element that starts. -/
def openingMarks (recovery : Recovery) (tag : Tag) : List Mark :=
  .line :: (recovery.attributeColumns tag).map fun column => Mark.ofTold column.1

/-- **The marks that an event makes.** -/
def marks (recovery : Recovery) (progress : Progress) : Event → List Mark
  | .start tag =>
    match progress.record with
    | none => if recovery.isLineName tag.name then recovery.openingMarks tag else []
    | some _ => []
  | .empty tag =>
    match progress.record with
    | none => if recovery.isLineName tag.name then recovery.openingMarks tag else []
    | some _ => [Mark.ofTold (recovery.positionOfTag? tag)]
  | .finish _ =>
    match progress.column, progress.record with
    | some (told, _), some _ => [Mark.ofTold told]
    | _, _ => []
  | _ => []

/-- The line at hand, if there is one, has its positions as they are counted. -/
def AtHand (progress : Progress) (position : Nat) : Prop :=
  ∀ record ∈ progress.record, record.At position

variable {progress : Progress} {position : Nat}

theorem atHand_none (column : Option (Option UInt64 × Growing Char)) (position : Nat) :
    AtHand ⟨none, column⟩ position := nofun

theorem AtHand.addText (at_hand : AtHand progress position) (raw : List Char) :
    AtHand (progress.addText raw) position := by
  obtain ⟨record, column⟩ := progress
  cases column with
  | some column => exact at_hand
  | none =>
    cases record with
    | none => exact atHand_none _ _
    | some record =>
      rintro _ ⟨⟩
      exact (at_hand record rfl).addText raw

/-- **The sums of an event are words if the positions that are counted are.** -/
theorem sums_lt_iff (at_hand : AtHand progress position) (event : Event) :
    (∀ sum ∈ recovery.sums progress event, sum < UInt64.size) ↔
      ∀ other ∈ Mark.reached position (recovery.marks progress event), other < UInt64.size := by
  have opening (tag : Tag) :
      (∀ sum ∈ Record.addSums {} (recovery.attributeColumns tag), sum < UInt64.size) ↔
        ∀ other ∈ Mark.reached position (recovery.openingMarks tag), other < UInt64.size := by
    rw [openingMarks, Mark.reached, List.forall_mem_cons, at_empty.addSums_lt_iff]
    exact ⟨fun fits => ⟨Nat.two_pow_pos 64, fits⟩, And.right⟩
  have single {record : Record} (here : record.At position) (told : Option UInt64) :
      (∀ sum ∈ [record.addSum told], sum < UInt64.size) ↔
        ∀ other ∈ Mark.reached position [Mark.ofTold told], other < UInt64.size := by
    rw [here.addSum]
    rfl
  obtain ⟨record, column⟩ := progress
  cases event with
  | start tag =>
    cases record with
    | some record => exact Iff.rfl
    | none =>
      simp only [sums, marks]
      split
      · exact opening tag
      · exact Iff.rfl
  | empty tag =>
    cases record with
    | some record => exact single (at_hand record rfl) _
    | none =>
      simp only [sums, marks]
      split
      · rw [← opening tag, List.forall_mem_append]
        refine ⟨And.left, fun fits => ⟨fits, ?_⟩⟩
        rw [opened_eq_addColumns]
        exact (at_empty.addColumns fits).widthSums_lt
      · exact Iff.rfl
  | finish name =>
    cases column with
    | some column =>
      cases record with
      | none => exact Iff.rfl
      | some record => exact single (at_hand record rfl) _
    | none =>
      cases record with
      | none => exact Iff.rfl
      | some record =>
        have fits : ∀ sum ∈ recovery.sums ⟨some record, none⟩ (.finish name), sum < UInt64.size := by
          simp only [sums]
          split
          · exact (at_hand record rfl).widthSums_lt
          · exact nofun
        exact ⟨fun _ => nofun, fun _ => fits⟩
  | _ => exact Iff.rfl

/-- **What an event does to the line and the column at hand**, by the marks that it makes. -/
inductive Advances (recovery : Recovery) (progress : Progress) : List Mark → Progress → Prop where
  | kept : Advances recovery progress [] progress
  | text (raw : List Char) : Advances recovery progress [] (progress.addText raw)
  | opened (tag : Tag) (outside : progress.record = none) :
      Advances recovery progress (recovery.openingMarks tag)
        { progress with record := some (recovery.opened tag) }
  | whole (tag : Tag) (outside : progress.record = none) :
      Advances recovery progress (recovery.openingMarks tag) progress
  | begun (tag : Tag) {record : Record} (inside : progress.record = some record) :
      Advances recovery progress []
        { progress with column := some (recovery.positionOfTag? tag, .empty) }
  | added (told : Option UInt64) (raw : List Char) {record : Record}
      {column : Option (Option UInt64 × Growing Char)} (inside : progress.record = some record)
      (rest : column = progress.column ∨ column = none) :
      Advances recovery progress [Mark.ofTold told] ⟨some (record.addColumn told raw), column⟩
  | closed : Advances recovery progress [] ⟨none, none⟩

/-- A line that is complete leaves behind what was to come after it. -/
theorem ok_of_map {line : Option (List Char)} {composed : Except ReferenceFault (List Char)}
    {next after : Progress}
    (advanced : (composed.map fun line => (some line, next)) = .ok (line, after)) :
    after = next := by
  cases composed with
  | error fault => cases advanced
  | ok text =>
    cases advanced
    rfl

theorem advances_of_advance {event : Event} {line : Option (List Char)} {after : Progress}
    (advanced : recovery.advance progress event = .ok (line, after)) :
    recovery.Advances progress (recovery.marks progress event) after := by
  obtain ⟨record, column⟩ := progress
  cases event with
  | comment content =>
    cases record with
    | none =>
      cases advanced
      exact .kept
    | some record =>
      cases advanced
      exact .kept
  | start tag =>
    cases record with
    | some record =>
      cases advanced
      exact .begun tag rfl
    | none =>
      simp only [Recovery.advance, Except.ok.injEq, Prod.mk.injEq] at advanced
      obtain ⟨-, rfl⟩ := advanced
      simp only [marks]
      split
      · exact .opened tag rfl
      · exact .kept
  | empty tag =>
    cases record with
    | some record =>
      cases advanced
      exact .added _ [] rfl (.inl rfl)
    | none =>
      simp only [Recovery.advance] at advanced
      simp only [marks]
      split at advanced
      · rename_i named
        rw [if_pos named, ok_of_map advanced]
        exact .whole tag rfl
      · rename_i other
        cases advanced
        rw [if_neg other]
        exact .kept
  | text raw =>
    cases advanced
    exact .text raw
  | reference name =>
    cases advanced
    exact .text _
  | cdata content =>
    cases advanced
    exact .text _
  | finish name =>
    cases column with
    | some column =>
      cases record with
      | none =>
        cases advanced
        exact .closed
      | some record =>
        cases advanced
        exact .added column.1 _ rfl (.inr rfl)
    | none =>
      cases record with
      | none =>
        cases advanced
        exact .kept
      | some record =>
        simp only [Recovery.advance] at advanced
        split at advanced
        · rw [ok_of_map advanced]
          exact .closed
        · cases advanced
          exact .kept
  | other =>
    cases advanced
    exact .kept

/-- After an event whose positions are words, the line at hand is at the one that is counted. -/
theorem AtHand.advances (at_hand : AtHand progress position) {marks : List Mark} {after : Progress}
    (fits : ∀ other ∈ Mark.reached position marks, other < UInt64.size)
    (advances : recovery.Advances progress marks after) :
    AtHand after (Mark.last position marks) := by
  cases advances with
  | kept => exact at_hand
  | text raw => exact at_hand.addText raw
  | opened tag outside =>
    rintro _ ⟨⟩
    rw [opened_eq_addColumns]
    obtain ⟨-, columns⟩ := List.forall_mem_cons.mp fits
    exact at_empty.addColumns ((at_empty.addSums_lt_iff _).mpr columns)
  | whole tag outside =>
    intro record inside
    cases outside.symm.trans inside
  | begun tag inside => exact at_hand
  | @added told raw record column inside rest =>
    rintro _ ⟨⟩
    have here := at_hand record inside
    have sum := fits _ List.mem_cons_self
    rw [← here.addSum] at sum
    exact here.addColumn sum raw
  | closed => exact nofun

/-! ### Runs -/

section

variable [MultibyteCodecs]

/-- What the events of a run tell, each of them at its place, up to the first failure. -/
def along {α : Type} (recovery : Recovery) (tell : Progress → Event → List α)
    (state : RecoveryState) : List Event → List α
  | [] => []
  | event :: events =>
    tell state.progress event ++
      match recovery.handle state event with
      | (none, next) => recovery.along tell next events
      | (some _, _) => []

theorem advance_of_handle {event : Event} {next : RecoveryState}
    (handled : recovery.handle state event = (none, next)) :
    ∃ line, recovery.advance state.progress event = .ok (line, next.progress) := by
  rw [handle_eq] at handled
  cases advanced : recovery.advance state.progress event with
  | error fault =>
    rw [advanced] at handled
    cases handled
  | ok step =>
    obtain ⟨line, progress⟩ := step
    rw [advanced] at handled
    exact ⟨line, by rw [(carryOut_adds handled).2]⟩

/-- **The sums of a run are words if the positions that are counted are.** -/
theorem along_sums_lt_iff (at_hand : AtHand state.progress position) (events : List Event) :
    (∀ sum ∈ recovery.along recovery.sums state events, sum < UInt64.size) ↔
      ∀ other ∈ Mark.reached position (recovery.along recovery.marks state events),
        other < UInt64.size := by
  induction events generalizing state position with
  | nil => exact ⟨nofun, nofun⟩
  | cons event events ih =>
    rw [along, along, Mark.reached_append, List.forall_mem_append, List.forall_mem_append,
      ← sums_lt_iff at_hand event]
    apply and_congr_right
    intro fits
    rcases handled : recovery.handle state event with ⟨_ | failure, next⟩
    · obtain ⟨line, advanced⟩ := advance_of_handle handled
      rw [sums_lt_iff at_hand] at fits
      exact ih (at_hand.advances fits (advances_of_advance advanced))
    · exact ⟨nofun, nofun⟩

end

/-! ### Positions that are told in a run -/

/-- The column at hand, if there is one and it tells its position, has room behind it. -/
def ColumnHasRoom (progress : Progress) : Prop :=
  ∀ column ∈ progress.column, ∀ told ∈ column.1, told.toNat + 1 < UInt64.size

theorem ColumnHasRoom.addText (room : ColumnHasRoom progress) (raw : List Char) :
    ColumnHasRoom (progress.addText raw) := by
  obtain ⟨record, column⟩ := progress
  cases column with
  | none => exact nofun
  | some column =>
    rintro _ ⟨⟩
    exact room column rfl

theorem ColumnHasRoom.advances (few : recovery.columnNames.length < UInt64.size)
    (room : ColumnHasRoom progress) {marks : List Mark} {after : Progress}
    (advances : recovery.Advances progress marks after) : ColumnHasRoom after := by
  cases advances with
  | kept => exact room
  | text raw => exact room.addText raw
  | opened tag outside => exact room
  | whole tag outside => exact room
  | begun tag inside =>
    rintro _ ⟨⟩
    exact fun told here => room_of_positionOfTag? few here
  | added told raw inside rest =>
    rcases rest with rfl | rfl
    · exact room
    · exact nofun
  | closed => exact nofun

/-- **Behind a position that is told there is room for another one.** -/
theorem room_of_mem_marks (few : recovery.columnNames.length < UInt64.size)
    (room : ColumnHasRoom progress) {event : Event} {told : UInt64}
    (inside : .located told ∈ recovery.marks progress event) : told.toNat + 1 < UInt64.size := by
  have of_told {position : Option UInt64} (member : .located told ∈ [Mark.ofTold position]) :
      position = some told := by
    cases position with
    | none => cases List.mem_singleton.mp member
    | some position =>
      cases List.mem_singleton.mp member
      rfl
  have opening {tag : Tag} (member : .located told ∈ recovery.openingMarks tag) :
      told.toNat + 1 < UInt64.size := by
    obtain ⟨⟨position, raw⟩, column, same⟩ := List.mem_map.mp
      ((List.mem_cons.mp member).resolve_left nofun)
    obtain ⟨⟨key, value⟩, -, here⟩ := List.mem_map.mp column
    cases here
    exact room_of_positionOfName? few (of_told (List.mem_singleton.mpr same.symm))
  obtain ⟨record, column⟩ := progress
  cases event with
  | start tag =>
    cases record with
    | some record => cases inside
    | none =>
      simp only [marks] at inside
      split at inside
      · exact opening inside
      · cases inside
  | empty tag =>
    cases record with
    | some record => exact room_of_positionOfTag? few (of_told inside)
    | none =>
      simp only [marks] at inside
      split at inside
      · exact opening inside
      · cases inside
  | finish name =>
    cases column with
    | none => cases record <;> cases inside
    | some column =>
      cases record with
      | none => cases inside
      | some record => exact room column rfl told (of_told inside)
  | _ => cases inside

section

variable [MultibyteCodecs]

theorem room_of_mem_along (few : recovery.columnNames.length < UInt64.size)
    (room : ColumnHasRoom state.progress) {events : List Event} {told : UInt64}
    (inside : .located told ∈ recovery.along recovery.marks state events) :
    told.toNat + 1 < UInt64.size := by
  induction events generalizing state with
  | nil => cases inside
  | cons event events ih =>
    rcases List.mem_append.mp inside with here | later
    · exact room_of_mem_marks few room here
    · rcases handled : recovery.handle state event with ⟨_ | failure, next⟩
      · rw [handled] at later
        obtain ⟨line, advanced⟩ := advance_of_handle handled
        exact ih (room.advances few (advances_of_advance advanced)) later
      · rw [handled] at later
        cases later

/-! ### Marks outside line elements -/

omit [MultibyteCodecs] in
theorem marks_outside (outside : progress.record = none) (event : Event) :
    recovery.marks progress event = []
      ∨ ∃ more, recovery.marks progress event = .line :: more := by
  obtain ⟨record, column⟩ := progress
  cases outside
  cases event with
  | start tag =>
    simp only [marks]
    split
    · exact .inr ⟨_, rfl⟩
    · exact .inl rfl
  | empty tag =>
    simp only [marks]
    split
    · exact .inr ⟨_, rfl⟩
    · exact .inl rfl
  | finish name => cases column <;> exact .inl rfl
  | _ => exact .inl rfl

omit [MultibyteCodecs] in
theorem Advances.outside {after : Progress} (advances : recovery.Advances progress [] after)
    (outside : progress.record = none) : after.record = none := by
  generalize nothing : [] = marks at advances
  cases advances with
  | kept => exact outside
  | text raw =>
    obtain ⟨record, column⟩ := progress
    cases outside
    cases column <;> rfl
  | opened tag outside => cases nothing
  | whole tag outside => exact outside
  | begun tag inside => exact outside
  | added told raw inside rest => cases nothing
  | closed => rfl

/-- The marks of a run begin with a line element. -/
theorem along_marks_outside (outside : state.record = none) (events : List Event) :
    recovery.along recovery.marks state events = []
      ∨ ∃ more, recovery.along recovery.marks state events = .line :: more := by
  induction events generalizing state with
  | nil => exact .inl rfl
  | cons event events ih =>
    rw [along]
    have no_line : state.progress.record = none := outside
    rcases recovery.marks_outside no_line event with nothing | ⟨more, line⟩
    · rcases handled : recovery.handle state event with ⟨_ | failure, next⟩
      · obtain ⟨line, advanced⟩ := advance_of_handle handled
        have advances := advances_of_advance advanced
        rw [nothing] at advances ⊢
        exact ih (advances.outside no_line)
      · rw [nothing]
        exact .inl rfl
    · exact .inr ⟨_, congrArg (· ++ _) line⟩

/-! ### The bound -/

/-- The sums are words just when every stretch of columns that take the following position has room
    for one more. -/
theorem along_sums_lt_iff_hasRoomEverywhere (outside : state.record = none) (events : List Event) :
    (∀ sum ∈ recovery.along recovery.sums state events, sum < UInt64.size) ↔
      Mark.HasRoomEverywhere (recovery.along recovery.marks state events) := by
  have at_hand : AtHand state.progress 0 := by
    intro record inside
    cases outside.symm.trans inside
  have room : Mark.HasRoom 0 (recovery.along recovery.marks state events) := by
    rcases recovery.along_marks_outside outside events with nothing | ⟨more, line⟩
    · rw [nothing]
      intro count after split
      cases count with
      | zero => exact Nat.two_pow_pos 64
      | succ count => cases split
    · have other : Mark.line ≠ .following := nofun
      rw [line, Mark.hasRoom_of_ne other]
      exact Nat.two_pow_pos 64
  have both := Mark.reached_lt_iff 0 (recovery.along recovery.marks state events)
  rw [along_sums_lt_iff at_hand]
  exact ⟨fun fits => (both.mp ⟨Nat.two_pow_pos 64, fits⟩).2, fun all => (both.mpr ⟨room, all⟩).2⟩

/-- **Where a position may overflow.**  In no run does a column that tells its position leave no
    room behind it.  All sums of a run are words if and only if every stretch of columns without a
    position of their own, from the start of a line element or a column with one, has room for one
    more; so they are if all positions that are told are below a bound and the marks are no more
    than what is left above it. -/
theorem sums_of_run (recovery : Recovery) (few : recovery.columnNames.length < UInt64.size)
    (charset : Charset) (document : Source) (sink : Sink) :
    let events := (documentReport charset document).1
    let sums := recovery.along recovery.sums (start charset sink) events
    let marks := recovery.along recovery.marks (start charset sink) events
    (∀ position, .located position ∈ marks → position.toNat + 1 < UInt64.size)
      ∧ ((∀ sum ∈ sums, sum < UInt64.size) ↔ Mark.HasRoomEverywhere marks)
      ∧ ∀ most, (∀ position, .located position ∈ marks → position.toNat < most) →
        most + marks.length ≤ UInt64.size → ∀ sum ∈ sums, sum < UInt64.size := by
  intro events sums marks
  have outside : (start charset sink).record = none := rfl
  have bound := @along_sums_lt_iff_hasRoomEverywhere recovery _ _ outside events
  refine ⟨?_, bound, ?_⟩
  · intro position inside
    have no_column : ColumnHasRoom (start charset sink).progress := nofun
    exact room_of_mem_along few no_column inside
  · intro most small enough
    exact bound.mpr (Mark.hasRoomEverywhere_of_few small enough)

end

/-- A column at the last but one position that a number can tell, and one behind it. -/
def atTheLimit : Source := Source.ofBytes (Charset.utf8.encode
  "<Line><a number='18446744073709551614'>x</a><b>y</b><c number='2'/>".toList)

theorem sums_of_run_atTheLimit :
    plainRecovery.columnNames.length < UInt64.size
      ∧ plainRecovery.along plainRecovery.sums (start .utf8 {}) (documentReport .utf8 atTheLimit).1 =
        [2 ^ 64 - 2, 2 ^ 64 - 1, 2]
      ∧ Mark.HasRoomEverywhere
        (plainRecovery.along plainRecovery.marks (start .utf8 {})
          (documentReport .utf8 atTheLimit).1) := by
  have few : plainRecovery.columnNames.length < UInt64.size := by decide
  have sums : plainRecovery.along plainRecovery.sums (start .utf8 {})
      (documentReport .utf8 atTheLimit).1 = [2 ^ 64 - 2, 2 ^ 64 - 1, 2] := by decide +kernel
  refine ⟨few, sums, ?_⟩
  apply (sums_of_run plainRecovery few .utf8 atTheLimit {}).2.1.mp
  rw [sums]
  decide

/-- **A column behind the greatest position overflows.**  Its position is the greatest word, so the
    following one is zero, and so is the width of the record: the line has no columns at all. -/
theorem following_overflows :
    let document := Source.ofBytes (Charset.utf8.encode
      "<Line><a number='18446744073709551615'>x</a><b>y</b></Line>".toList)
    plainRecovery.along plainRecovery.sums (start .utf8 {}) (documentReport .utf8 document).1 =
        [2 ^ 64 - 1, 2 ^ 64, 2 ^ 64]
      ∧ ¬ (∀ sum ∈ plainRecovery.along plainRecovery.sums (start .utf8 {})
        (documentReport .utf8 document).1, sum < UInt64.size)
      ∧ (plainRecovery.run document {}).result = .ok 1
      ∧ (plainRecovery.run document {}).sink.accepted = Charset.utf8.encode ['\n'] := by
  decide +kernel

end Recovery

end FlatFile
