import JobScript.Proofs.Pop.Commands
import JobScript.Proofs.Pop.Truncation

/-!
# Lines of a Stream That Ends

A stream of bytes is a sequence of lines, each with a line feed behind it, and of a rest without
one. Its lines are read one after the other, and the rest as a last line if there is any; from then
on nothing more is read. The bytes may arrive in any pieces: where one ends and the next one begins
does not show in the lines.

## Architecture

- `FramedStream`: the lines of a stream and its rest, and the texts they are
- `exists_framedStream`: every sequence of bytes is such a stream
- `Link.lineAt`: what is read for the n-th time, and `Link.lineAt_eq`: it is the n-th line
- `takeLine`, `readPieces`, `piecesLineAt`: the same for a stream that arrives in pieces
- `readLine_of_pieces`: one read from pieces and one from the whole stream
- `lines_framed_losslessly`: the lines of any stream
-/

namespace JobScript.Pop

/-! ## Section 1: Streams -/

/-- A stream that ends: lines with their line feeds, and what follows the last line feed. -/
structure FramedStream where
  lines : List SentLine
  rest : Bytes
  noFeed : lineFeed ∉ rest

namespace FramedStream

def bytes (stream : FramedStream) : Bytes :=
  SentLine.bytesOf stream.lines ++ stream.rest

/-- The texts of a stream: one for each line, and one more for the rest if there is any. -/
def texts (stream : FramedStream) : List String :=
  stream.lines.map SentLine.text ++
    if stream.rest = [] then [] else [Text.Utf8.read (stripReturn stream.rest)]

end FramedStream

/-- Every sequence of bytes is lines and a rest. -/
theorem exists_framedStream (bytes : Bytes) : ∃ stream : FramedStream, stream.bytes = bytes := by
  induction bytes with
  | nil => exact ⟨⟨[], [], List.not_mem_nil⟩, rfl⟩
  | cons byte bytes ih =>
    obtain ⟨⟨lines, rest, hrest⟩, rfl⟩ := ih
    by_cases hbyte : byte = lineFeed
    · subst hbyte
      exact ⟨⟨⟨[], List.not_mem_nil⟩ :: lines, rest, hrest⟩, rfl⟩
    · have hcons {tail : Bytes} (h : lineFeed ∉ tail) : lineFeed ∉ byte :: tail := by
        rw [List.mem_cons, not_or]
        exact ⟨Ne.symm hbyte, h⟩
      -- The byte belongs to the first line, or to the rest if there is no line
      cases lines with
      | nil => exact ⟨⟨[], byte :: rest, hcons hrest⟩, rfl⟩
      | cons line lines =>
        exact ⟨⟨⟨byte :: line.content, hcons line.noFeed⟩ :: lines, rest, hrest⟩, rfl⟩

/-! ## Section 2: Cuts -/

section Cuts

variable {bytes more line after : Bytes}

theorem cutLine?_append_of_cut (hcut : cutLine? bytes = some (line, after)) (more : Bytes) :
    cutLine? (bytes ++ more) = some (line, after ++ more) := by
  induction bytes generalizing line with
  | nil => cases hcut
  | cons byte bytes ih =>
    rw [List.cons_append]
    rw [cutLine?] at hcut ⊢
    split
    · rename_i hbyte
      rw [if_pos hbyte] at hcut
      cases hcut
      rfl
    · rename_i hbyte
      rw [if_neg hbyte] at hcut
      obtain ⟨⟨line', after'⟩, hrest, heq⟩ := Option.map_eq_some_iff.mp hcut
      cases heq
      rw [ih hrest]
      rfl

theorem cutLine?_append_of_no_cut (hcut : cutLine? bytes = none) (more : Bytes) :
    cutLine? (bytes ++ more) = (cutLine? more).map fun (line, after) => (bytes ++ line, after) := by
  induction bytes with
  | nil => cases h : cutLine? more <;> simp [h]
  | cons byte bytes ih =>
    rw [cutLine?] at hcut
    split at hcut
    · cases hcut
    · rename_i hbyte
      rw [List.cons_append, cutLine?, if_neg hbyte, ih (Option.map_eq_none_iff.mp hcut),
        Option.map_map]
      rfl

theorem noFeed_of_no_cut (hcut : cutLine? bytes = none) : lineFeed ∉ bytes := by
  intro hfeed
  obtain ⟨line, after, rfl, hline⟩ := List.eq_append_cons_of_mem hfeed
  rw [cutLine?_append hline] at hcut
  cases hcut

end Cuts

/-! ## Section 3: Reading the whole stream -/

/-- The lines there are to read of a stream that has ended are its texts. -/
theorem streamLines_bytes (stream : FramedStream) :
    streamLines true stream.bytes = stream.texts := by
  obtain ⟨lines, rest, hrest⟩ := stream
  unfold FramedStream.bytes FramedStream.texts
  induction lines with
  | nil =>
    rw [show SentLine.bytesOf [] ++ rest = rest from rfl,
      streamLines_of_no_cut (cutLine?_of_noFeed hrest)]
    cases rest <;> rfl
  | cons line lines ih =>
    have hcut : cutLine? (SentLine.bytesOf (line :: lines) ++ rest) =
        some (line.content, SentLine.bytesOf lines ++ rest) := by
      rw [SentLine.bytesOf_cons, List.append_assoc, cutLine?_bytes]
    rw [streamLines_of_cut hcut, ih]
    rfl

namespace Link

/-- What is read when the lines are read one after the other; the first one has number zero. -/
def lineAt : Nat → Link → Except TransportError (Option String)
  | 0, link => link.readLine.2
  | n + 1, link => lineAt n link.readLine.1

/-- Every read takes one of the lines there are, and beyond the last one nothing is read. -/
theorem lineAt_eq {link : Link} (hended : link.isEnded = true) (n : Nat) :
    link.lineAt n = .ok link.lines[n]? := by
  induction n generalizing link with
  | zero =>
    cases hlines : link.lines with
    | nil => rw [lineAt, readLine_of_lines_nil hended hlines]; rfl
    | cons text rest =>
      obtain ⟨link', hread, -, -⟩ := readLine_of_lines_cons hlines
      rw [lineAt, hread]
      rfl
  | succ n ih =>
    cases hlines : link.lines with
    | nil =>
      rw [lineAt, readLine_of_lines_nil hended hlines, ih hended, hlines]
      rfl
    | cons text rest =>
      obtain ⟨link', hread, hrest, hsame⟩ := readLine_of_lines_cons hlines
      rw [lineAt, hread, ih (hsame.trans hended), hrest]
      rfl

end Link

/-! ## Section 4: Reading piece by piece -/

/-- Take bytes through the first line feed, or all of them if there is none. The pieces are what
each read brings, the first one being what is left of the last read. A piece without a line feed is
taken whole, and then the next one is read. -/
def takeLine : List Bytes → Bytes × List Bytes
  | [] => ([], [])
  | piece :: pieces =>
    match cutLine? piece with
    | some (line, after) => (line ++ [lineFeed], after :: pieces)
    | none =>
      let more := takeLine pieces
      (piece ++ more.1, more.2)

/-- What was taken without a line feed at its end. -/
def stripFeed (taken : Bytes) : Bytes :=
  if taken.getLast? = some lineFeed then taken.dropLast else taken

/-- Read a line from pieces. Nothing is read only if nothing was taken: an empty line was still
taken with its line feed. -/
def readPieces (pieces : List Bytes) : Option String × List Bytes :=
  let taken := takeLine pieces
  (if taken.1.isEmpty then none else some (Text.Utf8.read (stripReturn (stripFeed taken.1))),
    taken.2)

/-- What is read when the lines are read from pieces one after the other. -/
def piecesLineAt : Nat → List Bytes → Option String
  | 0, pieces => (readPieces pieces).1
  | n + 1, pieces => piecesLineAt n (readPieces pieces).2

section Pieces

variable {pieces : List Bytes} {line after : Bytes}

theorem stripFeed_concat (line : Bytes) : stripFeed (line ++ [lineFeed]) = line := by
  rw [stripFeed, List.getLast?_concat, if_pos rfl, List.dropLast_concat]

theorem stripFeed_of_noFeed (h : lineFeed ∉ line) : stripFeed line = line :=
  if_neg fun hlast => h (List.mem_of_getLast? hlast)

/-- A line is taken with its line feed, wherever the pieces are cut. -/
theorem takeLine_of_cut (hcut : cutLine? pieces.flatten = some (line, after)) :
    (takeLine pieces).1 = line ++ [lineFeed] ∧ (takeLine pieces).2.flatten = after := by
  induction pieces generalizing line with
  | nil => cases hcut
  | cons piece pieces ih =>
    rw [List.flatten_cons] at hcut
    cases hpiece : cutLine? piece with
    | some cut =>
      rw [cutLine?_append_of_cut hpiece] at hcut
      cases hcut
      simp only [takeLine, hpiece, List.flatten_cons, and_self]
    | none =>
      -- The line goes on in the next piece
      rw [cutLine?_append_of_no_cut hpiece] at hcut
      obtain ⟨⟨line', after'⟩, hrest, heq⟩ := Option.map_eq_some_iff.mp hcut
      cases heq
      obtain ⟨htaken, hleft⟩ := ih hrest
      simp only [takeLine, hpiece, htaken, hleft, List.append_assoc, and_self]

/-- Without a line feed all pieces are taken. -/
theorem takeLine_of_no_cut (hcut : cutLine? pieces.flatten = none) :
    (takeLine pieces).1 = pieces.flatten ∧ (takeLine pieces).2 = [] := by
  induction pieces with
  | nil => exact ⟨rfl, rfl⟩
  | cons piece pieces ih =>
    have hfeed := noFeed_of_no_cut hcut
    rw [List.flatten_cons, List.mem_append, not_or] at hfeed
    obtain ⟨htaken, hleft⟩ := ih (cutLine?_of_noFeed hfeed.2)
    simp only [takeLine, cutLine?_of_noFeed hfeed.1, htaken, hleft, List.flatten_cons, and_self]

/-- **Pieces do not show**: a line read from pieces is the line read from the whole stream, and
leaves the same bytes. -/
theorem readLine_of_pieces {link : Link} (hended : link.isEnded = true)
    (hunread : link.unread = pieces.flatten) :
    ∃ link', link.readLine = (link', .ok (readPieces pieces).1) ∧
      link'.unread = (readPieces pieces).2.flatten ∧ link'.isEnded = true := by
  have hparts := hended
  rw [Link.isEnded, Bool.and_eq_true, Bool.not_eq_true'] at hparts
  obtain ⟨hwhole, hclosed⟩ := hparts
  cases hcut : cutLine? link.unread with
  | some cut =>
    obtain ⟨line, after⟩ := cut
    obtain ⟨htaken, hleft⟩ := takeLine_of_cut (hunread ▸ hcut)
    refine ⟨{ link with unread := after }, ?_, hleft.symm, hended⟩
    simp [Link.readLine, hcut, readPieces, htaken, stripFeed_concat]
  | none =>
    obtain ⟨htaken, hleft⟩ := takeLine_of_no_cut (hunread ▸ hcut)
    rw [← hunread] at htaken
    have hstrip : stripFeed link.unread = link.unread :=
      stripFeed_of_noFeed (noFeed_of_no_cut hcut)
    -- Either nothing is left, or the last line of the stream
    cases hempty : link.unread.isEmpty with
    | true =>
      refine ⟨link, ?_, ?_, hended⟩
      · simp only [Link.readLine, hcut, hwhole, hclosed, hempty, readPieces, htaken,
          Bool.false_eq_true, if_false, if_true]
      · rw [readPieces, hleft]
        exact List.isEmpty_iff.mp hempty
    | false =>
      refine ⟨{ link with unread := [] }, ?_, ?_, hended⟩
      · simp only [Link.readLine, hcut, hwhole, hclosed, hempty, readPieces, htaken, hstrip,
          Bool.false_eq_true, if_false, if_true]
      · rw [readPieces, hleft]
        rfl

/-- So it is for every read. -/
theorem piecesLineAt_eq {link : Link} (hended : link.isEnded = true)
    (hunread : link.unread = pieces.flatten) (n : Nat) :
    link.lineAt n = .ok (piecesLineAt n pieces) := by
  induction n generalizing link pieces with
  | zero =>
    obtain ⟨link', hread, -, -⟩ := readLine_of_pieces hended hunread
    rw [Link.lineAt, hread, piecesLineAt]
  | succ n ih =>
    obtain ⟨link', hread, hleft, hended'⟩ := readLine_of_pieces hended hunread
    rw [Link.lineAt, hread, piecesLineAt]
    exact ih hended' hleft

end Pieces

/-! ## Section 5: Lines of a stream -/

/-- Lines of text that are sent, each with its ending, are a stream without a rest. -/
def TextLine.stream (lines : List TextLine) : FramedStream where
  lines := lines.map sent
  rest := []
  noFeed := List.not_mem_nil

theorem TextLine.texts_stream (lines : List TextLine) :
    (stream lines).texts = lines.map text := by
  rw [FramedStream.texts, stream, if_pos rfl, List.append_nil, map_text_sent]

/-- **Lines are framed without loss.** A server has sent bytes, in any pieces, and its stream has
ended. The bytes are lines with their line feeds and a rest, and reading gives the texts of the
lines, then that of the rest if there is any, and from then on nothing. It gives the same whether
the stream is read as a whole or piece by piece. Lines of text that were sent, whatever their
endings, are read as they were. -/
theorem lines_framed_losslessly {link : Link} {pieces : List Bytes}
    (hended : link.isEnded = true) (hunread : link.unread = pieces.flatten) :
    (∃ stream : FramedStream, stream.bytes = link.unread) ∧
      (∀ stream : FramedStream, stream.bytes = link.unread →
        ∀ n, link.lineAt n = .ok stream.texts[n]? ∧ piecesLineAt n pieces = stream.texts[n]?) ∧
      ∀ lines : List TextLine, TextLine.bytesOf lines = link.unread →
        ∀ n, link.lineAt n = .ok (lines.map TextLine.text)[n]? ∧
          piecesLineAt n pieces = (lines.map TextLine.text)[n]? := by
  have htexts (stream : FramedStream) (hbytes : stream.bytes = link.unread) (n : Nat) :
      link.lineAt n = .ok stream.texts[n]? ∧ piecesLineAt n pieces = stream.texts[n]? := by
    have hwhole : link.lineAt n = .ok stream.texts[n]? := by
      rw [Link.lineAt_eq hended, Link.lines, hended, ← hbytes, streamLines_bytes]
    have hpieces := piecesLineAt_eq hended hunread n
    exact ⟨hwhole, Except.ok.inj (hpieces.symm.trans hwhole)⟩
  refine ⟨exists_framedStream link.unread, htexts, ?_⟩
  intro lines hlines n
  have hbytes : (TextLine.stream lines).bytes = link.unread :=
    (List.append_nil (TextLine.bytesOf lines)).trans hlines
  have hread := htexts _ hbytes n
  rwa [TextLine.texts_stream] at hread

/-- Pieces that are cut inside a line ending, two carriage returns before a line feed, one inside a
line, an empty line and a last line without its line feed. -/
theorem odd_lines_read :
    let pieces : List Bytes := ["+O", "K\r", "\n\r\r\na\r", "b\n\n", "c\r"].map Text.Utf8.write
    let link : Link := { unread := pieces.flatten, replies := [], ending := .close }
    (link.isEnded = true ∧ link.unread = pieces.flatten) ∧
      ∀ n, link.lineAt n = .ok ["+OK", "\r", "a\rb", "", "c"][n]? ∧
        piecesLineAt n pieces = ["+OK", "\r", "a\rb", "", "c"][n]? := by
  intro pieces link
  let stream : FramedStream :=
    { lines := [⟨Text.Utf8.write "+OK\r", by decide +kernel⟩,
        ⟨Text.Utf8.write "\r\r", by decide +kernel⟩, ⟨Text.Utf8.write "a\rb", by decide +kernel⟩,
        ⟨[], List.not_mem_nil⟩]
      rest := Text.Utf8.write "c\r"
      noFeed := by decide +kernel }
  have hended : link.isEnded = true := rfl
  have hunread : link.unread = pieces.flatten := rfl
  have hbytes : stream.bytes = link.unread := by decide +kernel
  have htexts : stream.texts = ["+OK", "\r", "a\rb", "", "c"] := by decide +kernel
  obtain ⟨-, hread, -⟩ := lines_framed_losslessly hended hunread
  rw [← htexts]
  exact ⟨⟨hended, hunread⟩, hread stream hbytes⟩

end JobScript.Pop
