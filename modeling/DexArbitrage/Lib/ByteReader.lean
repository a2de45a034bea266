/-
This file is about reading a byte stream: programs whose state is what is still
to be read. A program reads a value back from the bytes that were written for
it when it takes exactly these bytes from the front of any stream and yields
the value. The rules follow the way a reader is built, so a format is proved
field by field, in the order in which its writer appends the fields.
-/

import DexArbitrage.Lib.Program

namespace DexArbitrage

/-- A program that reads from a stream of bytes. -/
abbrev ByteReader (Value : Type) : Type := Program (List UInt8) String Value

/-- Take a number of bytes from the front of the stream. -/
def readExact (count : Nat) : ByteReader (List UInt8) := fun stream =>
  if count ≤ stream.length then
    .ok (stream.take count, stream.drop count)
  else
    .error "failed to fill whole buffer"

/-- Whatever the reason for a failure is, report the given one. -/
def withContext {Value : Type} (context : String) (reader : ByteReader Value) :
    ByteReader Value := fun stream =>
  match reader.run stream with
  | .ok outcome => .ok outcome
  | .error _ => .error context

/-- The reader takes the written bytes, and nothing else, and yields the value. -/
def ReadsBack {Value : Type} (reader : ByteReader Value) (written : List UInt8)
    (value : Value) : Prop :=
  ∀ rest, reader.run (written ++ rest) = .ok (value, rest)

section Rules

variable {Value Result : Type}

theorem readsBack_pure (value : Value) : ReadsBack (pure value) [] value := fun _ => rfl

theorem ReadsBack.bind {reader : ByteReader Value} {next : Value → ByteReader Result}
    {first second : List UInt8} {value : Value} {result : Result}
    (reads : ReadsBack reader first value) (readsNext : ReadsBack (next value) second result) :
    ReadsBack (reader >>= next) (first ++ second) result := by
  intro rest
  rw [List.append_assoc]
  show (reader.run (first ++ (second ++ rest)) >>= fun outcome =>
    (next outcome.1).run outcome.2) = _
  rw [reads, ok_bind]
  exact readsNext rest

/-- A step that reads nothing. -/
theorem ReadsBack.step {reader : ByteReader Value} {next : Value → ByteReader Result}
    {written : List UInt8} {value : Value} {result : Result} (reads : ReadsBack reader [] value)
    (readsNext : ReadsBack (next value) written result) :
    ReadsBack (reader >>= next) written result :=
  reads.bind readsNext

/-- A last step that reads nothing. -/
theorem ReadsBack.last {reader : ByteReader Value} {next : Value → ByteReader Result}
    {written : List UInt8} {value : Value} {result : Result}
    (reads : ReadsBack reader written value) (readsNext : ReadsBack (next value) [] result) :
    ReadsBack (reader >>= next) written result := by
  have appended := reads.bind readsNext
  rwa [List.append_nil] at appended

theorem ReadsBack.map {reader : ByteReader Value} {written : List UInt8} {value : Value}
    (reads : ReadsBack reader written value) (change : Value → Result) :
    ReadsBack (change <$> reader) written (change value) := by
  intro rest
  show (reader.run (written ++ rest) >>= fun outcome => pure (change outcome.1, outcome.2)) = _
  rw [reads]
  rfl

theorem readsBack_readExact {count : Nat} {written : List UInt8}
    (length : written.length = count) : ReadsBack (readExact count) written written := by
  intro rest
  show (if count ≤ (written ++ rest).length then
    Except.ok ((written ++ rest).take count, (written ++ rest).drop count) else _) = _
  have enough : count ≤ (written ++ rest).length := by
    rw [List.length_append, length]
    exact Nat.le_add_right _ _
  rw [if_pos enough, List.take_left' length, List.drop_left' length]

theorem ReadsBack.withContext {reader : ByteReader Value} {written : List UInt8} {value : Value}
    (reads : ReadsBack reader written value) (context : String) :
    ReadsBack (withContext context reader) written value := by
  intro rest
  show (match reader.run (written ++ rest) with
    | .ok outcome => Except.ok outcome
    | .error _ => .error context) = _
  rw [reads]

theorem readsBack_require {condition : Prop} [Decidable condition] (holds : condition)
    (reason : String) : ReadsBack (require condition reason) [] () := by
  unfold require
  rw [if_pos holds]
  exact readsBack_pure ()

theorem readsBack_attempt {result : Except String Value} {value : Value}
    (succeeded : result = .ok value) : ReadsBack (attempt result) [] value := by
  rw [succeeded]
  exact fun _ => rfl

end Rules

end DexArbitrage
