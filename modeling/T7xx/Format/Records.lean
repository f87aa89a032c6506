import Mathlib.Data.List.Basic

namespace Records

/-- A format of records that need no mark between them. -/
structure Format (Byte Record : Type*) where
  encode : Record → List Byte
  take : List Byte → Option (Record × List Byte)
  solid : ∀ record, encode record ≠ []
  takes : ∀ record rest, take (encode record ++ rest) = some (record, rest)

variable {Byte Record : Type*}

/-- At most `most` records, which end where the bytes end. -/
def Format.decodeUpTo (format : Format Byte Record) : Nat → List Byte → Option (List Record)
  | _, [] => some []
  | 0, _ :: _ => none
  | most + 1, byte :: bytes =>
    match format.take (byte :: bytes) with
    | none => none
    | some (record, rest) => (format.decodeUpTo most rest).map (record :: ·)

def Format.decode (format : Format Byte Record) (bytes : List Byte) : Option (List Record) :=
  format.decodeUpTo bytes.length bytes

def Format.encodeAll (format : Format Byte Record) (records : List Record) : List Byte :=
  records.flatMap format.encode

variable (format : Format Byte Record)

theorem decodeUpTo_encodeAll {most : Nat} {records : List Record} (room : records.length ≤ most) :
    format.decodeUpTo most (format.encodeAll records) = some records := by
  unfold Format.encodeAll
  induction records generalizing most with
  | nil => simp [Format.decodeUpTo]
  | cons record records ih =>
    cases most with
    | zero => simp at room
    | succ most =>
      have taken := format.takes record (records.flatMap format.encode)
      rw [List.flatMap_cons]
      cases first : format.encode record with
      | nil => exact absurd first (format.solid record)
      | cons byte bytes =>
        rw [first, List.cons_append] at taken
        rw [List.cons_append, Format.decodeUpTo, taken]
        dsimp only
        rw [ih (by simpa using room), Option.map_some]

theorem length_le_encodeAll (records : List Record) :
    records.length ≤ (format.encodeAll records).length := by
  unfold Format.encodeAll
  induction records with
  | nil => simp
  | cons record records ih =>
    have positive := List.length_pos_of_ne_nil (format.solid record)
    rw [List.length_cons, List.flatMap_cons, List.length_append]
    omega

theorem encodeAll_length {size : Nat} {records : List Record}
    (sized : ∀ record ∈ records, (format.encode record).length = size) :
    (format.encodeAll records).length = records.length * size := by
  unfold Format.encodeAll
  induction records with
  | nil => simp
  | cons record records ih =>
    rw [List.forall_mem_cons] at sized
    rw [List.flatMap_cons, List.length_append, sized.1, ih sized.2, List.length_cons, Nat.succ_mul,
      Nat.add_comm]

/-- What was encoded record by record is decoded to the same records. -/
theorem decode_encodeAll (records : List Record) :
    format.decode (format.encodeAll records) = some records :=
  decodeUpTo_encodeAll format (length_le_encodeAll format records)

end Records
