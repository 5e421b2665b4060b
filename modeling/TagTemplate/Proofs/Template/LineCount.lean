import TagTemplate.Proofs.Template.Lines

/-!
# Lines counted in bytes

Offsets are places among the bytes of a source, while a cursor moves over its characters. A line
feed is one byte, and no other character has that byte in it, so both count the same lines, also up
to an offset within a character.

- `notMem_utf8EncodeChar`: only a line feed has the byte of a line feed;
- `lineOf_eq_countedLine`: the line of an offset, counted in characters and in bytes;
- `linesAt_of_counts`: what a run of questions keeps;
- `linesAt_start`: **a cursor answers every sequence of offsets as a direct count does**.
-/

namespace TagTemplate

open Text

/-- The byte of a line feed. -/
def lineFeed : UInt8 := 10

/-- The bytes of a source in UTF-8. -/
def sourceBytes (source : String) : List UInt8 := source.toByteArray.data.toList

/-- The line of a byte offset by a direct count: one more than the line feeds among the bytes before
it, and an offset past the end counts as the end. -/
def countedLine (source : String) (offset : Nat) : Nat :=
  let bytes := sourceBytes source
  1 + (bytes.take (min offset bytes.length)).count lineFeed

/-! ## The bytes of characters -/

theorem lineFeed_ne_ofNat {n : Nat} (h : n < 256) (hn : n ≠ 10) : lineFeed ≠ UInt8.ofNat n := by
  intro heq
  have hvalue : 10 % 256 = n % 256 := congrArg UInt8.toNat heq
  omega

theorem notMem_utf8EncodeChar {c : Char} (h : c ≠ '\n') : lineFeed ∉ String.utf8EncodeChar c := by
  have hc : c.val.toNat ≠ 10 := fun hten => h (Char.ext (UInt32.toNat_inj.1 hten))
  -- the bytes of a character that takes more than one are all above ASCII
  have hbyte : ∀ n, 128 ≤ n → n < 256 → lineFeed ≠ UInt8.ofNat n := fun n hlow hhigh =>
    lineFeed_ne_ofNat hhigh (by omega)
  fun_cases String.utf8EncodeChar c with
  | case1 v hone =>
    rw [List.mem_singleton]
    exact lineFeed_ne_ofNat (by omega) hc
  | case2 v hone htwo =>
    simp only [List.mem_cons, List.not_mem_nil, or_false, not_or]
    refine ⟨?_, ?_⟩ <;> exact hbyte _ (by omega) (by omega)
  | case3 v hone htwo hthree =>
    simp only [List.mem_cons, List.not_mem_nil, or_false, not_or]
    refine ⟨?_, ?_, ?_⟩ <;> exact hbyte _ (by omega) (by omega)
  | case4 v hone htwo hthree =>
    simp only [List.mem_cons, List.not_mem_nil, or_false, not_or]
    refine ⟨?_, ?_, ?_, ?_⟩ <;> exact hbyte _ (by omega) (by omega)

/-- The line feeds among the first bytes of a character. -/
theorem count_take_utf8EncodeChar (c : Char) (length : Nat) :
    ((String.utf8EncodeChar c).take length).count lineFeed =
      if c = '\n' ∧ 0 < length then 1 else 0 := by
  by_cases hc : c = '\n'
  · subst hc
    have hbytes : String.utf8EncodeChar '\n' = [lineFeed] := rfl
    cases length with
    | zero => rfl
    | succ length =>
      rw [if_pos ⟨rfl, Nat.succ_pos length⟩, hbytes, List.take_succ_cons, List.take_nil]
      rfl
  · rw [if_neg fun h => hc h.1]
    exact List.count_eq_zero.2 fun hmem => notMem_utf8EncodeChar hc (List.mem_of_mem_take hmem)

/-- Line feeds are counted up to an end alike in characters and in bytes. -/
theorem newlinesIn_eq_count (last position : Nat) (cs : List Char) :
    newlinesIn 0 last position cs =
      ((cs.flatMap String.utf8EncodeChar).take (last - position)).count lineFeed := by
  induction cs generalizing position with
  | nil => simp [newlinesIn]
  | cons c cs ih =>
    have hbefore : (c = '\n' ∧ 0 ≤ position ∧ position < last) ↔
        c = '\n' ∧ 0 < last - position :=
      and_congr_right fun _ => by omega
    rw [newlinesIn, List.flatMap_cons, List.take_append, List.count_append,
      count_take_utf8EncodeChar, String.length_utf8EncodeChar, Nat.sub_sub, ← ih]
    simp only [hbefore]

theorem sourceBytes_eq (source : String) :
    sourceBytes source = source.toList.flatMap String.utf8EncodeChar := by
  rw [sourceBytes, ← String.utf8Encode_toList]
  exact List.toList_data_toByteArray

theorem lineOf_eq_countedLine (source : String) (offset : Nat) :
    lineOf source.toList offset = countedLine source offset := by
  rw [lineOf, countedLine, newlinesIn_eq_count, Nat.sub_zero, ← sourceBytes_eq,
    ← List.take_take, List.take_length]

/-! ## Runs -/

namespace LineCursor

/-- The lines that a cursor answers for offsets, asked one after the other. -/
def linesAt : LineCursor → List Nat → List Nat
  | _, [] => []
  | cursor, offset :: offsets =>
    let (line, cursor) := cursor.lineAt offset
    line :: cursor.linesAt offsets

theorem linesAt_of_counts {cursor : LineCursor} {source : List Char} (h : cursor.Counts source)
    (offsets : List Nat) : cursor.linesAt offsets = offsets.map (lineOf source) := by
  induction offsets generalizing cursor with
  | nil => rfl
  | cons offset offsets ih =>
    obtain ⟨hline, hcounts⟩ := counts_lineAt h offset
    rw [linesAt, List.map_cons, ← hline, ← ih hcounts]

/-- **A cursor answers every sequence of offsets as a direct count does**, whether they grow or not
and also past the end. -/
theorem linesAt_start (source : String) (offsets : List Nat) :
    (start source.toList).linesAt offsets = offsets.map (countedLine source) := by
  rw [linesAt_of_counts (counts_start source.toList)]
  exact List.map_congr_left fun offset _ => lineOf_eq_countedLine source offset

/-- Forward, back into the first character, past the end and back again. -/
example : (start "é\nb\n".toList).linesAt [4, 1, 9, 3] = [2, 1, 3, 2] := by decide

end LineCursor

end TagTemplate
