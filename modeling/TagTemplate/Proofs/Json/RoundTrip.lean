import TagTemplate.Json.Read
import TagTemplate.Json.Write
import TagTemplate.Proofs.Number.Numeral
import TagTemplate.Proofs.Text.Search

/-!
# Documents read back

A document that was written is read as itself, also when it stands inside of another one.

- `ReadsBack`: what was written is read, whatever follows it;
- `readItems_separated`, `readList_separated`: items with commas between them;
- `readPieces_writeChar`, `readString_written`: strings, character by character;
- `Readable`: a document that reads back when nesting is allowed, with one lemma for each kind of
  document;
- `read_of_readable`: the whole text of a document.
-/

namespace TagTemplate.Json

open TagTemplate.Text

/-- What may stand behind a document inside of another one: nothing, a comma or a closing mark. -/
def Ends (rest : List Char) : Prop := ∀ c ∈ rest.head?, c = ',' ∨ c = ']' ∨ c = '\x7d'

theorem ends_nil : Ends [] := by
  intro c hc
  cases hc

theorem ends_comma (rest : List Char) : Ends (',' :: rest) := by
  intro c hc
  cases hc
  exact .inl rfl

theorem skipBlanks_cons {c : Char} (h : isMarkupBlank c = false) (cs : List Char) :
    skipBlanks (c :: cs) = c :: cs :=
  List.dropWhile_cons_of_neg (by simp [h])

/-! ## Items with commas between them -/

/-- What is written for `x` begins with a mark that is neither blank nor `close`, and is read as `x`
whatever follows. -/
structure ReadsBack {α : Type} (item : List Char → Read α) (close : Char) (written : List Char)
    (x : α) : Prop where
  starts : ∃ c cs, written = c :: cs ∧ isMarkupBlank c = false ∧ c ≠ close
  reads : ∀ rest, Ends rest → item (written ++ rest) = some (x, rest)

namespace ReadsBack

variable {α : Type} {item : List Char → Read α} {close : Char} {written : List Char} {x : α}

theorem skipBlanks_append (h : ReadsBack item close written x) (rest : List Char) :
    skipBlanks (written ++ rest) = written ++ rest := by
  obtain ⟨c, cs, rfl, hblank, -⟩ := h.starts
  exact skipBlanks_cons hblank _

end ReadsBack

/-- Texts with commas between them. -/
def separated (texts : List (List Char)) : List Char := [','].intercalate texts

theorem separated_singleton (text : List Char) : separated [text] = text :=
  List.intercalate_singleton

theorem separated_cons (text next : List Char) (texts : List (List Char)) :
    separated (text :: next :: texts) = text ++ ',' :: separated (next :: texts) := by
  rw [separated, List.intercalate_cons_cons, List.append_assoc, List.singleton_append, separated]

/-- There are no more texts than characters, but for one. -/
theorem length_le_separated (texts : List (List Char)) :
    texts.length ≤ (separated texts).length + 1 := by
  induction texts with
  | nil => exact Nat.zero_le _
  | cons text texts ih =>
    cases texts with
    | nil =>
      rw [List.length_singleton]
      exact Nat.le_add_left _ _
    | cons next texts =>
      rw [separated_cons, List.length_append]
      simp only [List.length_cons] at ih ⊢
      omega

section Items

variable {α : Type} {item : List Char → Read α} {close : Char} {write : α → List Char}

theorem readItems_separated (hclose : close = ']' ∨ close = '\x7d') (x : α) (xs : List α)
    (h : ∀ y ∈ x :: xs, ReadsBack item close (write y) y) {fuel : Nat}
    (hfuel : (x :: xs).length ≤ fuel) (rest : List Char) :
    readItems item close fuel (separated ((x :: xs).map write) ++ close :: rest) =
      some (x :: xs, rest) := by
  -- an item takes one unit of fuel and is ended by a comma or by the closing mark
  induction xs generalizing x fuel with
  | nil =>
    obtain ⟨fuel, rfl⟩ := Nat.exists_eq_add_of_le' hfuel
    have hx := h x List.mem_cons_self
    have hends : Ends (close :: rest) := by
      intro c hc
      cases hc
      exact .inr hclose
    have hblank : isMarkupBlank close = false := by
      rcases hclose with rfl | rfl <;> rfl
    rw [List.map_singleton, separated_singleton, List.length_singleton, readItems,
      hx.skipBlanks_append, hx.reads _ hends]
    simp only [skipBlanks_cons hblank, if_true]
  | cons next xs ih =>
    obtain ⟨fuel, rfl⟩ := Nat.exists_eq_add_of_le' (Nat.le_trans (Nat.le_add_left 1 _) hfuel)
    have hx := h x List.mem_cons_self
    have hcomma : ',' ≠ close := by
      rcases hclose with rfl | rfl <;> decide
    have hxs := ih next (fun y hy => h y (List.mem_cons_of_mem x hy)) (Nat.le_of_succ_le_succ hfuel)
    rw [List.map_cons] at hxs
    rw [List.map_cons, List.map_cons, separated_cons, List.append_assoc, List.cons_append,
      readItems, hx.skipBlanks_append, hx.reads _ (ends_comma _)]
    simp only [skipBlanks_cons (show isMarkupBlank ',' = false from rfl), if_neg hcomma,
      if_true, hxs]

/-- Items between marks are read as they were written; there may be none. -/
theorem readList_separated (hclose : close = ']' ∨ close = '\x7d') (xs : List α)
    (h : ∀ x ∈ xs, ReadsBack item close (write x) x) (rest : List Char) :
    readList item close (separated (xs.map write) ++ close :: rest) = some (xs, rest) := by
  cases xs with
  | nil =>
    have hblank : isMarkupBlank close = false := by
      rcases hclose with rfl | rfl <;> rfl
    show readList item close (close :: rest) = _
    simp only [readList, skipBlanks_cons hblank, if_true]
  | cons x xs =>
    have hfuel : (x :: xs).length ≤
        (separated ((x :: xs).map write) ++ close :: rest).length + 1 := by
      have hlength := length_le_separated ((x :: xs).map write)
      rw [List.length_map] at hlength
      rw [List.length_append]
      omega
    have hitems := readItems_separated hclose x xs h hfuel rest
    -- the first character is that of the first item, so it is not the closing mark
    obtain ⟨c, cs, hwritten, hblank, hne⟩ := (h x List.mem_cons_self).starts
    obtain ⟨cs', hstart⟩ : ∃ cs', separated ((x :: xs).map write) = c :: cs' := by
      cases xs with
      | nil => exact ⟨cs, (separated_singleton _).trans hwritten⟩
      | cons next xs =>
        refine ⟨cs ++ ',' :: separated ((next :: xs).map write), ?_⟩
        rw [List.map_cons, List.map_cons, separated_cons, hwritten]
        rfl
    rw [hstart, List.cons_append] at hitems ⊢
    simp only [readList, skipBlanks_cons hblank, if_neg hne]
    exact hitems

end Items

theorem writeItems_eq (items : List Json) : writeItems items = separated (items.map write) := by
  induction items with
  | nil => rfl
  | cons item items ih =>
    cases items with
    | nil => exact (separated_singleton _).symm
    | cons next items =>
      rw [List.map_cons, List.map_cons, separated_cons, writeItems, ih, List.map_cons]
      exact fun h => List.cons_ne_nil _ _ h

/-- A member as it is written. -/
def writeMember (member : Option String × Json) : List Char :=
  writeString member.1 ++ ':' :: member.2.write

theorem writeMembers_eq (members : List (Option String × Json)) :
    writeMembers members = separated (members.map writeMember) := by
  induction members with
  | nil => rfl
  | cons member members ih =>
    obtain ⟨name, value⟩ := member
    cases members with
    | nil => exact (separated_singleton _).symm
    | cons next members =>
      rw [List.map_cons, List.map_cons, separated_cons, writeMembers, ih, List.map_cons]
      · rw [writeMember, writeMember, List.append_assoc, List.cons_append]
      · exact fun h => List.cons_ne_nil _ _ h

/-! ## Strings -/

/-- The piece that a written character is read as. -/
def pieceOf (c : Char) : Piece := if writeChar c = [c] then .char c else .escaped c

theorem textOfPieces_pieceOf (cs : List Char) :
    textOfPieces (cs.map pieceOf) = some (String.ofList cs) := by
  have hjoin : joinPieces (fun c => [c]) (fun c => [c]) (cs.map pieceOf) = some cs := by
    induction cs with
    | nil => rfl
    | cons c cs ih =>
      rw [List.map_cons, pieceOf]
      split <;> simp [joinPieces, ih]
  rw [textOfPieces, hjoin]
  rfl

/-- The code of a control character is read as that character. -/
theorem hexCode?_of_control {c : Char} (h : c.toNat < 0x20) :
    hexCode? '0' '0' (hexDigit (c.toNat / 16)) (hexDigit (c.toNat % 16)) = some c.toNat ∧
      pieceOfCode c.toNat = .escaped c :=
  forall_ascii
    (p := fun c => c.toNat < 0x20 →
      hexCode? '0' '0' (hexDigit (c.toNat / 16)) (hexDigit (c.toNat % 16)) = some c.toNat ∧
        pieceOfCode c.toNat = .escaped c)
    (by decide +kernel) (by omega) h

/-- The characters that are escaped by a letter. -/
def lettered : List (Char × Char) :=
  [('"', '"'), ('\\', '\\'), ('\x08', 'b'), ('\x0c', 'f'), ('\n', 'n'), ('\r', 'r'), ('\t', 't')]

/-- How a character is written: by a letter, by its code, or as it stands. -/
theorem writeChar_cases (c : Char) :
    (∃ letter, (c, letter) ∈ lettered ∧ writeChar c = ['\\', letter]) ∨
    (c.toNat < 0x20 ∧ writeChar c =
      ['\\', 'u', '0', '0', hexDigit (c.toNat / 16), hexDigit (c.toNat % 16)]) ∨
    (¬c.toNat < 0x20 ∧ c ≠ '"' ∧ c ≠ '\\' ∧ writeChar c = [c]) := by
  unfold writeChar
  split_ifs with hquote hback
  all_goals try (left; subst_vars; exact ⟨_, by decide, rfl⟩)
  · exact .inr (.inl ⟨‹_›, rfl⟩)
  · exact .inr (.inr ⟨‹_›, hquote, hback, rfl⟩)

theorem shortEscape?_lettered :
    ∀ pair ∈ lettered, shortEscape? pair.2 = some pair.1 ∧ pair.2 ≠ 'u' := by
  decide

/-- A character reads back as its piece, whatever follows it. -/
theorem readPieces_writeChar (c : Char) (cs : List Char) :
    readPieces (writeChar c ++ cs) =
      (readPieces cs).map fun (pieces, rest) => (pieceOf c :: pieces, rest) := by
  unfold pieceOf
  -- an escape with a letter, one with a code, or the character itself
  rcases writeChar_cases c with
    ⟨letter, hmem, hwritten⟩ | ⟨hcontrol, hwritten⟩ | ⟨hcontrol, hquote, hback, hwritten⟩
  · obtain ⟨hletter, hu⟩ := shortEscape?_lettered _ hmem
    rw [hwritten, if_neg (by simp)]
    show readPieces ('\\' :: letter :: cs) = _
    rw [readPieces, hletter]
    · cases readPieces cs <;> rfl
    · intro _ _ _ _ _ heq
      exact absurd heq hu
  · obtain ⟨hcode, hpiece⟩ := hexCode?_of_control hcontrol
    rw [hwritten, if_neg (by simp)]
    show readPieces ('\\' :: 'u' :: '0' :: '0' :: _ :: _ :: cs) = _
    rw [readPieces, hcode, ← hpiece]
    cases readPieces cs <;> rfl
  · rw [hwritten, if_pos rfl]
    show readPieces (c :: cs) = _
    rw [readPieces, if_neg (not_or.2 ⟨hcontrol, hback⟩)]
    · cases readPieces cs <;> rfl
    all_goals simp_all

/-- A string is read as the text that was written. -/
theorem readString_written (s : String) (rest : List Char) :
    readString textOfPieces (s.toList.flatMap writeChar ++ '"' :: rest) = some (some s, rest) := by
  have hpieces : ∀ cs : List Char,
      readPieces (cs.flatMap writeChar ++ '"' :: rest) = some (cs.map pieceOf, rest) := by
    intro cs
    induction cs with
    | nil => rfl
    | cons c cs ih =>
      rw [List.flatMap_cons, List.append_assoc, readPieces_writeChar, ih]
      rfl
  rw [readString, hpieces, Option.map_some]
  dsimp only
  rw [textOfPieces_pieceOf, String.ofList_toList]

/-! ## Documents -/

/-- A document that is read as it was written, if arrays and objects may be nested `depth` deep. -/
def Readable (depth : Nat) (j : Json) : Prop :=
  ∀ deeper, depth ≤ deeper → ReadsBack (readValue textOfPieces deeper) ']' j.write j

namespace Readable

variable {depth : Nat}

theorem mono {j : Json} {more : Nat} (h : Readable depth j) (hle : depth ≤ more) :
    Readable more j :=
  fun deeper hdeeper => h deeper (Nat.le_trans hle hdeeper)

/-- A document that begins with another mark than those of arrays and objects. -/
theorem readValue_eq_readScalar {c : Char} (harray : c ≠ '[') (hobject : c ≠ '\x7b') (depth : Nat)
    (cs : List Char) :
    readValue textOfPieces depth (c :: cs) = readScalar textOfPieces (c :: cs) := by
  cases depth with
  | zero => rfl
  | succ depth =>
    rw [readValue]
    · intro _ heq
      exact harray (List.cons.inj heq).1
    · intro _ heq
      exact hobject (List.cons.inj heq).1

theorem null : Readable depth .null :=
  fun deeper _ => ⟨⟨'n', _, rfl, rfl, by decide⟩, fun rest _ => by
    exact readValue_eq_readScalar (by decide) (by decide) deeper _⟩

theorem bool (b : Bool) : Readable depth (.bool b) := by
  intro deeper _
  cases b with
  | false =>
    exact ⟨⟨'f', _, rfl, rfl, by decide⟩, fun rest _ =>
      readValue_eq_readScalar (by decide) (by decide) deeper _⟩
  | true =>
    exact ⟨⟨'t', _, rfl, rfl, by decide⟩, fun rest _ =>
      readValue_eq_readScalar (by decide) (by decide) deeper _⟩

theorem text (s : String) : Readable depth (.text s) := by
  intro deeper _
  refine ⟨⟨'"', _, rfl, rfl, by decide⟩, fun rest _ => ?_⟩
  have hwritten : (Json.text s).write ++ rest =
      '"' :: (s.toList.flatMap writeChar ++ '"' :: rest) := by
    rw [Json.text, write, writeString, Option.getD_some, List.append_assoc]
    rfl
  rw [hwritten, readValue_eq_readScalar (by decide) (by decide)]
  simp only [readScalar, readString_written, Option.map_some]
  rfl

/-- No digit ends a document, begins a word or is any mark of one. -/
theorem digit_marks {c : Char} (h : c.isDigit = true) :
    isMarkupBlank c = false ∧ c ≠ '[' ∧ c ≠ ']' ∧ c ≠ '\x7b' ∧ c ≠ '"' ∧ c ≠ '-' ∧ c ≠ 'n' ∧
      c ≠ 't' ∧ c ≠ 'f' :=
  forall_ascii
    (p := fun c => c.isDigit = true → isMarkupBlank c = false ∧ c ≠ '[' ∧ c ≠ ']' ∧ c ≠ '\x7b' ∧
      c ≠ '"' ∧ c ≠ '-' ∧ c ≠ 'n' ∧ c ≠ 't' ∧ c ≠ 'f')
    (by decide) (toNat_of_isDigit h) h

theorem readDigits_digits (n : Nat) {rest : List Char} (h : Ends rest) :
    readDigits (Number.digits n ++ rest) = some (Number.digits n, rest) := by
  have hrest : ∀ d ∈ rest.head?, d.isDigit = false := by
    intro d hd
    rcases h d hd with rfl | rfl | rfl <;> rfl
  rw [readDigits, span_append (fun _ => Number.isDigit_of_mem_digits) hrest]
  split
  · rename_i heq
    exact absurd (Prod.mk.inj heq).1 (Number.digits_ne_nil n)
  · rfl

theorem readMagnitude_digits (n : Nat) {rest : List Char} (h : Ends rest) :
    readMagnitude false (Number.digits n ++ rest) = some (.ofNat n, rest) := by
  have hzero : ¬((Number.digits n).head? = some '0' ∧ (Number.digits n).length ≠ 1) := by
    rintro ⟨hhead, hlength⟩
    by_cases hn : n = 0
    · subst hn
      exact hlength rfl
    · exact Number.head?_digits hn hhead
  have hrest : readFraction rest = some ([], rest) ∧ readExponent rest = some (none, rest) := by
    cases rest with
    | nil => exact ⟨rfl, rfl⟩
    | cons c rest => rcases h c rfl with rfl | rfl | rfl <;> exact ⟨rfl, rfl⟩
  rw [readMagnitude, readDigits_digits n h, Option.bind_some]
  simp only [if_neg hzero, hrest, Option.bind_some, Option.map_some]
  rfl

theorem ofNat (n : Nat) : Readable depth (.ofNat n) := by
  intro deeper _
  have hwritten : (Json.ofNat n).write = Number.digits n := by
    simp [Json.ofNat, write, Numeral.write, Numeral.ofNat]
  obtain ⟨c, cs, hcs⟩ := List.exists_cons_of_ne_nil (Number.digits_ne_nil n)
  -- the first digit tells the numeral from every other kind of value
  obtain ⟨hblank, harray, hclose, hobject, hquote, hminus, hn, ht, hf⟩ :=
    digit_marks (Number.isDigit_of_mem_digits (hcs ▸ List.mem_cons_self))
  refine ⟨⟨c, cs, hwritten.trans hcs, hblank, hclose⟩, fun rest hends => ?_⟩
  have hmagnitude := readMagnitude_digits n hends
  rw [hcs, List.cons_append] at hmagnitude
  rw [hwritten, hcs, List.cons_append, readValue_eq_readScalar harray hobject, readScalar]
  · have hword : readWord (c :: (cs ++ rest)) = none := by
      rw [readWord, isPrefixOf?_cons_of_ne (Ne.symm hn), isPrefixOf?_cons_of_ne (Ne.symm ht),
        isPrefixOf?_cons_of_ne (Ne.symm hf)]
      rfl
    rw [hword, readNumeral]
    · rw [hmagnitude]
      rfl
    · intro _ heq
      exact hminus (List.cons.inj heq).1
  · intro _ heq
    exact hquote (List.cons.inj heq).1

theorem optional {α : Type} {f : α → Json} {o : Option α} (h : ∀ a ∈ o, Readable depth (f a)) :
    Readable depth (.optional f o) := by
  cases o with
  | none => exact null
  | some a => exact h a rfl

theorem array {items : List Json} (h : ∀ item ∈ items, Readable depth item) :
    Readable (depth + 1) (.array items) := by
  intro deeper hdeeper
  obtain ⟨deeper, rfl⟩ := Nat.exists_eq_add_of_le' (Nat.le_trans (Nat.le_add_left 1 _) hdeeper)
  refine ⟨⟨'[', writeItems items ++ [']'], rfl, rfl, by decide⟩, fun rest _ => ?_⟩
  have hitems : readList (readValue textOfPieces deeper) ']' (writeItems items ++ ']' :: rest) =
      some (items, rest) := by
    rw [writeItems_eq]
    exact readList_separated (.inl rfl) items
      (fun item hitem => h item hitem deeper (Nat.le_of_succ_le_succ hdeeper)) rest
  have hwritten : (Json.array items).write ++ rest = '[' :: (writeItems items ++ ']' :: rest) := by
    simp [write]
  rw [hwritten, readValue, hitems]
  rfl

/-- A member of an object reads back if its value does. -/
theorem member {name : String} {value : Json} (h : Readable depth value) :
    ReadsBack (readMember textOfPieces (readValue textOfPieces depth)) '\x7d'
      (writeMember (some name, value)) (some name, value) := by
  have hvalue := h depth (Nat.le_refl _)
  refine ⟨⟨'"', _, rfl, rfl, by decide⟩, fun rest hends => ?_⟩
  have hwritten : writeMember (some name, value) ++ rest =
      '"' :: (name.toList.flatMap writeChar ++ '"' :: ':' :: (value.write ++ rest)) := by
    simp [writeMember, writeString]
  rw [hwritten]
  simp only [readMember, readString_written]
  rw [skipBlanks_cons rfl]
  simp only
  rw [hvalue.skipBlanks_append, hvalue.reads rest hends]
  rfl

theorem record_eq (members : List (String × Json)) :
    Json.record members = .object (members.map (Prod.map some id)) := rfl

theorem record {members : List (String × Json)} (h : ∀ m ∈ members, Readable depth m.2) :
    Readable (depth + 1) (.record members) := by
  intro deeper hdeeper
  obtain ⟨deeper, rfl⟩ := Nat.exists_eq_add_of_le' (Nat.le_trans (Nat.le_add_left 1 _) hdeeper)
  refine ⟨⟨'\x7b', _, rfl, rfl, by decide⟩, fun rest _ => ?_⟩
  have hmembers : readList (readMember textOfPieces (readValue textOfPieces deeper)) '\x7d'
      (writeMembers (members.map (Prod.map some id)) ++ '\x7d' :: rest) =
        some (members.map (Prod.map some id), rest) := by
    rw [writeMembers_eq]
    refine readList_separated (.inr rfl) _ (fun m hm => ?_) rest
    obtain ⟨⟨name, value⟩, hmem, rfl⟩ := List.mem_map.1 hm
    exact member ((h _ hmem).mono (Nat.le_of_succ_le_succ hdeeper))
  have hwritten : (Json.record members).write ++ rest = '\x7b' ::
      (writeMembers (members.map (Prod.map some id)) ++ '\x7d' :: rest) := by
    simp [record_eq, write]
  rw [hwritten, readValue, hmembers]
  rfl

end Readable

/-- The text of a document is read as that document. -/
theorem read_of_readable {j : Json} {depth : Nat} (h : Readable depth j)
    (hdepth : depth ≤ j.write.length) : read j.write = some j := by
  have hj := h _ hdepth
  have hstart := hj.skipBlanks_append []
  have hread := hj.reads [] ends_nil
  rw [List.append_nil] at hstart hread
  rw [read, readWithin, readAll, hstart, hread]
  rfl

end TagTemplate.Json
