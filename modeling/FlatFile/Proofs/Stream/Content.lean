/-
  FlatFile/Proofs/Stream/Content.lean
  ===================================
  **What a source holds, whatever the sizes of its reads.**

  `Source.bytes` are the bytes that a source gives until its end, and
  `Source.failure?` is the failure that keeps it from getting there, if there is
  one.  Interrupted reads are tried again and leave no trace in either, so two
  sources with the same bytes and without a failure are two ways of serving one
  file.  The blocks in which a source is really read (`inBlocks`) hold the same.
-/
import FlatFile.Stream.Source

namespace FlatFile

/-! ### Pieces -/

theorem pieces_flatten (most : Nat) (bytes : List UInt8) : (pieces most bytes).flatten = bytes := by
  induction bytes using pieces.induct most with
  | case1 => simp [pieces]
  | case2 b rest ih => simp [pieces, ih]

theorem pieces_nonempty {most : Nat} {bytes piece : List UInt8} (h : piece ∈ pieces most bytes) :
    piece ≠ [] := by
  induction bytes using pieces.induct most with
  | case1 => simp [pieces] at h
  | case2 b rest ih =>
    rw [pieces, List.mem_cons] at h
    rcases h with rfl | h
    · exact List.cons_ne_nil _ _
    · exact ih h

theorem length_le_of_mem_pieces {most : Nat} {bytes piece : List UInt8}
    (h : piece ∈ pieces most bytes) : piece.length ≤ most + 1 := by
  induction bytes using pieces.induct most with
  | case1 => simp [pieces] at h
  | case2 b rest ih =>
    rw [pieces, List.mem_cons] at h
    rcases h with rfl | h
    · rw [List.length_cons]
      exact Nat.succ_le_succ (List.length_take_le most rest)
    · exact ih h

namespace Source

/-- No read gives more than is asked for at once. -/
def Bounded (source : Source) : Prop :=
  ∀ block : List UInt8, .data block ∈ source → block.length ≤ blockSize

theorem Bounded.tail {reading : Reading} {rest : Source} (bounded : Bounded (reading :: rest)) :
    rest.Bounded :=
  fun block inside => bounded block (List.mem_cons_of_mem _ inside)

theorem bounded_inBlocks (source : Source) : source.inBlocks.Bounded := by
  intro block inside
  obtain ⟨reading, -, served⟩ := List.mem_flatMap.mp inside
  cases reading with
  | failure failure => cases List.mem_singleton.mp served
  | data bytes =>
    cases bytes with
    | nil =>
      cases List.mem_singleton.mp served
      exact Nat.zero_le _
    | cons b bytes =>
      obtain ⟨piece, cut, same⟩ := List.mem_map.mp served
      cases same
      exact length_le_of_mem_pieces cut

/-! ### Content -/

/-- The bytes that a source gives before it ends or fails. -/
def bytes : Source → List UInt8
  | [] => []
  | .data [] :: _ => []
  | .data (b :: block) :: rest => b :: block ++ bytes rest
  | .failure failure :: rest => if failure.kind = .interrupted then bytes rest else []

/-- The failure that a source meets instead of its end. -/
def failure? : Source → Option IoFailure
  | [] => none
  | .data [] :: _ => none
  | .data (_ :: _) :: rest => failure? rest
  | .failure failure :: rest =>
    if failure.kind = .interrupted then failure? rest else some failure

@[simp] theorem bytes_ofBytes (content : List UInt8) : (ofBytes content).bytes = content := by
  cases content <;> simp [ofBytes, bytes]

@[simp] theorem failure?_ofBytes (content : List UInt8) : (ofBytes content).failure? = none := by
  cases content <;> rfl

theorem content_blocks (blocks : List (List UInt8)) (full : ∀ block ∈ blocks, block ≠ [])
    (rest : Source) :
    bytes (blocks.map .data ++ rest) = blocks.flatten ++ rest.bytes
      ∧ failure? (blocks.map .data ++ rest) = rest.failure? := by
  induction blocks with
  | nil => exact ⟨rfl, rfl⟩
  | cons block blocks ih =>
    rcases List.forall_mem_cons.mp full with ⟨here, others⟩
    have more := ih others
    cases block with
    | nil => exact absurd rfl here
    | cons b block => simp [bytes, failure?, more]

/-- **Reading in blocks changes nothing** in what a source holds. -/
theorem content_inBlocks (source : Source) :
    source.inBlocks.bytes = source.bytes ∧ source.inBlocks.failure? = source.failure? := by
  induction source with
  | nil => exact ⟨rfl, rfl⟩
  | cons reading rest ih =>
    rw [show inBlocks (reading :: rest) = blocksOf reading ++ inBlocks rest from List.flatMap_cons ..]
    cases reading with
    | failure failure =>
      by_cases retried : failure.kind = .interrupted
      · simpa [blocksOf, bytes, failure?, retried] using ih
      · simp [blocksOf, bytes, failure?, retried]
    | data block =>
      cases block with
      | nil => exact ⟨rfl, rfl⟩
      | cons b block =>
        have split := content_blocks (pieces (blockSize - 1) (b :: block))
          (fun _ inside => pieces_nonempty inside) (inBlocks rest)
        rw [pieces_flatten, ih.1, ih.2] at split
        exact split

end Source

end FlatFile
