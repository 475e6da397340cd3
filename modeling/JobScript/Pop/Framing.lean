/-!
# Lines of a Byte Stream

Both sides of a session speak in lines. A line ends with a line feed; one carriage return before
it belongs to the ending as well. What follows the last line feed is a line only once the stream
has ended.
-/

namespace JobScript.Pop

abbrev Bytes := List UInt8

def lineFeed : UInt8 := 10

/-- The byte that may stand before a line's end. -/
def carriageReturn : UInt8 := 13

/-- The bytes up to the first line feed and the bytes after it. -/
def cutLine? : Bytes → Option (Bytes × Bytes)
  | [] => none
  | byte :: rest =>
    if byte = lineFeed then some ([], rest)
    else (cutLine? rest).map fun (line, after) => (byte :: line, after)

/-- A line without one carriage return at its end. -/
def stripReturn (line : Bytes) : Bytes :=
  if line.getLast? = some carriageReturn then line.dropLast else line

/-- What follows a line is shorter than what was before it, at least by the line feed. -/
theorem length_lt_of_cutLine? {bytes line after : Bytes} (h : cutLine? bytes = some (line, after)) :
    after.length < bytes.length := by
  induction bytes generalizing line after with
  | nil => simp [cutLine?] at h
  | cons byte rest ih =>
    rw [cutLine?] at h
    split at h
    · obtain ⟨-, rfl⟩ := Prod.mk.inj (Option.some.inj h)
      simp
    · obtain ⟨⟨line', after'⟩, hcut, heq⟩ := Option.map_eq_some_iff.1 h
      obtain ⟨-, rfl⟩ := Prod.mk.inj heq
      exact Nat.lt_succ_of_lt (ih hcut)

/-- The lines of a sequence of bytes that ends with a line feed; bytes after the last line feed
make no line. -/
def completeLines (bytes : Bytes) : List Bytes :=
  match _h : cutLine? bytes with
  | none => []
  | some (line, after) => stripReturn line :: completeLines after
  termination_by bytes.length
  decreasing_by exact length_lt_of_cutLine? _h

end JobScript.Pop
