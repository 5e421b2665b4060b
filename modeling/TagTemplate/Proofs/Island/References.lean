import TagTemplate.Proofs.Except
import TagTemplate.Proofs.Island.Reading
import TagTemplate.Proofs.Text.Classes

/-!
# References in text and in attribute values

A reference in running text is resolved by a reader of its own, one in an attribute value along with
the rest of the value. Both take the predefined entities and numerals in base ten and sixteen, and a
capital `X` is for text only.

- `attributeReference?`: the character of a reference in an attribute value;
- `attributeReference?_eq`: it is that of the reference in text, unless the numeral is `Loose`;
- `toOption_read_inText`, `toOption_read_inAttribute`: the documents with one reference in text, and
  with one in an attribute value;
- `accepted_alike`: **a reference is accepted in both or in neither, and means the same in both**.

Nothing is said of numerals with a plus sign and of the number zero, which only text takes.
-/

namespace TagTemplate

namespace Markup

open Text

/-! ## Numerals -/

/-- Base and digits of a numeral behind `#`. -/
def numeral : List Char → Nat × List Char
  | 'x' :: hex => (16, hex)
  | decimal => (10, decimal)

/-- Base and digits where a capital marker counts too. -/
def anyNumeral : List Char → Nat × List Char
  | 'x' :: hex => (16, hex)
  | 'X' :: hex => (16, hex)
  | decimal => (10, decimal)

/-- Digits without a plus sign in front. -/
def dropPlus : List Char → List Char
  | '+' :: digits => digits
  | digits => digits

/-- The reference is a number with a plus sign or the number zero. -/
def Loose (name : List Char) : Prop :=
  name.head? = some '#' ∧ ((numeral name.tail).2.head? = some '+' ∨
    (numeral name.tail).2 ≠ [] ∧ ∀ c ∈ (numeral name.tail).2, c = '0')

instance (name : List Char) : Decidable (Loose name) :=
  decidable_of_iff (name.head? = some '#' ∧ ((numeral name.tail).2.head? = some '+' ∨
      (numeral name.tail).2 ≠ [] ∧ (numeral name.tail).2.all (· = '0') = true))
    (by simp [Loose])

theorem eq_of_digitValue?_zero {base : Nat} {c : Char} (h : digitValue? base c = some 0) :
    c = '0' := by
  obtain ⟨value, -⟩ := Option.filter_eq_some_iff.1 h
  split_ifs at value with hdigit hsmall hlarge
  · exact forall_ascii (p := fun c => c.isDigit = true → c.toNat - '0'.toNat = 0 → c = '0')
      (by decide) (toNat_of_isDigit hdigit) hdigit (Option.some.inj value)
  · exact absurd (Option.some.inj value) (Nat.succ_ne_zero _)
  · exact absurd (Option.some.inj value) (Nat.succ_ne_zero _)

/-- Only zeros are read as zero. -/
theorem readDigits_eq_zero {base : Nat} (hbase : 0 < base) {value : Nat} {ds : List Char}
    (h : readDigits base value ds = .ok 0) : value = 0 ∧ ∀ c ∈ ds, c = '0' := by
  induction ds generalizing value with
  | nil => exact ⟨Except.ok.inj h, nofun⟩
  | cons c ds ih =>
    rw [readDigits] at h
    split at h
    · cases h
    · rename_i digit hdigit
      split at h
      · obtain ⟨hvalue, hds⟩ := ih h
        -- a digit is added to a multiple of those before it, so neither is more than zero
        have hfirst : digit = 0 := by omega
        subst hfirst
        refine ⟨?_, List.forall_mem_cons.2 ⟨eq_of_digitValue?_zero hdigit, hds⟩⟩
        have hproduct : value * base = 0 := by omega
        rcases Nat.mul_eq_zero.1 hproduct with hzero | hzero
        · exact hzero
        · omega
      · cases h

theorem readUnsigned_eq_zero {base : Nat} (hbase : 0 < base) {ds : List Char}
    (h : readUnsigned base ds = .ok 0) : ds ≠ [] ∧ ∀ c ∈ ds, c = '0' := by
  unfold readUnsigned at h
  split at h
  · cases h
  · rename_i hne
    exact ⟨hne, (readDigits_eq_zero hbase h).2⟩

theorem numeral_fst_pos (number : List Char) : 0 < (numeral number).1 := by
  unfold numeral
  split <;> exact Nat.succ_pos _

theorem anyNumeral_eq {number : List Char} (h : number.head? ≠ some 'X') :
    anyNumeral number = numeral number := by
  unfold anyNumeral
  split
  · rfl
  · exact absurd rfl h
  · rename_i hx _
    unfold numeral
    split
    · exact absurd rfl (hx _)
    · rfl

theorem dropPlus_eq {ds : List Char} (h : ds.head? ≠ some '+') : dropPlus ds = ds := by
  unfold dropPlus
  split
  · exact absurd rfl h
  · rfl

theorem strictCode_eq (number : List Char) : strictCode number =
    match (numeral number).2 with
    | '+' :: _ => .error .signed
    | '-' :: _ => .error .signed
    | _ => readUnsigned (numeral number).1 (numeral number).2 := rfl

/-- Without a plus sign the strict reader is the plain one, as a minus sign is no digit. -/
theorem toOption_strictCode {number : List Char} (h : (numeral number).2.head? ≠ some '+') :
    (strictCode number).toOption =
      (readUnsigned (numeral number).1 (numeral number).2).toOption := by
  rw [strictCode_eq]
  generalize (numeral number).2 = ds at h
  split
  · exact absurd rfl h
  · rfl
  · rfl

theorem predefined?_number (number : List Char) : predefined? ('#' :: number) = none := by
  rw [Option.eq_none_iff_forall_ne_some]
  intro c hc
  cases isLower_of_predefined? hc '#' List.mem_cons_self

theorem resolve?_number (number : List Char) : resolve? ('#' :: number) =
    (readUnsigned (anyNumeral number).1 (dropPlus (anyNumeral number).2)).toOption.bind
      codePoint? := by
  unfold resolve?
  rw [predefined?_number]
  rfl

/-! ## The character of a reference -/

/-- The character that a reference in an attribute value stands for. -/
def attributeReference? : List Char → Option Char
  | '#' :: number => (strictCharacter number).toOption
  | name => predefined? name

/-- Everything but a number is the name of an entity. -/
theorem attributeReference?_of_ne {name : List Char} (h : ∀ number, name ≠ '#' :: number) :
    attributeReference? name = predefined? name := by
  unfold attributeReference?
  split
  · exact absurd rfl (h _)
  · rfl

theorem resolve?_of_ne {name : List Char} (h : ∀ number, name ≠ '#' :: number) :
    resolve? name = predefined? name := by
  unfold resolve?
  cases predefined? name with
  | some c => rfl
  | none =>
    dsimp only
    split
    · exact absurd rfl (h _)
    · rfl

/-- A capital `X` is a marker in text only. -/
theorem attributeReference?_capital (hex : List Char) :
    attributeReference? ('#' :: 'X' :: hex) = none := rfl

theorem resolve?_capital (hex : List Char) :
    resolve? ('#' :: 'X' :: hex) = resolve? ('#' :: 'x' :: hex) := rfl

/-- **In an attribute value a reference is what it is in text**, unless it is written with a capital
`X`, a plus sign or zeros only. -/
theorem attributeReference?_eq {name : List Char} (h : ¬ Loose name)
    (hcapital : ¬ ['#', 'X'] <+: name) : attributeReference? name = resolve? name := by
  by_cases hnumber : ∃ number, name = '#' :: number
  · obtain ⟨number, rfl⟩ := hnumber
    obtain ⟨hsign, hzero⟩ := not_or.1 fun hloose => h ⟨rfl, hloose⟩
    rw [List.tail_cons] at hsign hzero
    have hX : number.head? ≠ some 'X' := by
      intro hX
      obtain ⟨hex, rfl⟩ := List.head?_eq_some_iff.1 hX
      exact hcapital ⟨hex, rfl⟩
    -- the number zero is refused in an attribute value, but only zeros stand for it
    have hcode : ∀ code, (strictCode number).toOption = some code → code ≠ 0 := by
      rintro code hcode rfl
      rw [toOption_strictCode hsign] at hcode
      exact hzero (readUnsigned_eq_zero (numeral_fst_pos number) (eq_ok_of_toOption hcode))
    rw [resolve?_number, anyNumeral_eq hX, dropPlus_eq hsign, ← toOption_strictCode hsign]
    show (strictCharacter number).toOption = _
    rw [strictCharacter]
    cases hstrict : strictCode number with
    | error fault => rfl
    | ok code =>
      have hne : code ≠ 0 := hcode code (by rw [hstrict]; rfl)
      show (if code = 0 then _ else _ : Except ReferenceFault Char).toOption = codePoint? code
      rw [if_neg hne]
      cases codePoint? code <;> rfl
  · rw [not_exists] at hnumber
    rw [attributeReference?_of_ne hnumber, resolve?_of_ne hnumber]

theorem toOption_referenced (position : Nat) (name : List Char) :
    (referenced position name).toOption = attributeReference? name := by
  by_cases hnumber : ∃ number, name = '#' :: number
  · obtain ⟨number, rfl⟩ := hnumber
    show ((strictCharacter number).mapError _).toOption = (strictCharacter number).toOption
    cases strictCharacter number <;> rfl
  · rw [not_exists] at hnumber
    rw [attributeReference?_of_ne hnumber]
    unfold referenced
    split
    · exact absurd rfl (hnumber _)
    · cases predefined? name <;> rfl

theorem toOption_unescape_reference {name : List Char} (h : ∀ c ∈ name, c ≠ '&' ∧ c ≠ ';') :
    (unescape ('&' :: (name ++ [';']))).toOption = (attributeReference? name).map fun c => [c] := by
  have hlength : ('&' :: (name ++ [';'])).length = name.length + 1 + 1 := by simp
  rw [unescape, hlength, unescapeFrom_reference h, ← toOption_referenced (0 + 1)]
  cases referenced (0 + 1) name with
  | error fault => rfl
  | ok c => rfl

/-- The attributes of a tag with one attribute. -/
theorem attributes_single {key value : List Char} (hkey : IsKey key) (hvalue : '"' ∉ value)
    (name : List Char) :
    Tag.attributes ⟨name, ' ' :: (key ++ '=' :: '"' :: (value ++ ['"']))⟩ =
      (unescape value).map fun cs => [(String.ofList key, String.ofList cs)] := by
  have hend : ∀ fuel seen position, readAttributes fuel seen position [] = .ok [] := by
    intro fuel seen position
    cases fuel <;> rfl
  obtain ⟨stop, hread⟩ := @readAttributes_cons [] key hkey rfl value hvalue
    (' ' :: (key ++ '=' :: '"' :: (value ++ ['"']))).length (byteLength name) []
  rw [Tag.attributes, hread, hend]
  cases unescape value <;> rfl

end Markup

namespace Island

open Markup Text

/-! ## Documents with one reference -/

/-- What no reference is written with. -/
def referenceMarks : List Char := ['&', ';', '<', '>', '\'', '"']

/-- What may stand between `&` and `;`: something, without marks and white space. -/
structure IsReferenceName (name : List Char) : Prop where
  ne_nil : name ≠ []
  plain : ∀ c ∈ name, c ∉ referenceMarks ∧ isBlank c = false

instance (name : List Char) : Decidable (IsReferenceName name) :=
  decidable_of_iff (name ≠ [] ∧ name.all (fun c => c ∉ referenceMarks && !isBlank c) = true)
    ⟨fun h => ⟨h.1, fun c hc => by simpa using List.all_eq_true.1 h.2 c hc⟩,
      fun h => ⟨h.ne_nil, List.all_eq_true.2 fun c hc => by simpa using h.plain c hc⟩⟩

/-- A document with a reference as its text. -/
def inText (name : List Char) : List Char :=
  '<' :: 'a' :: '>' :: '&' :: (name ++ [';', '<', '/', 'a', '>'])

/-- The inside of a tag with a reference as the value of an attribute. -/
def attributeContent (name : List Char) : List Char :=
  'a' :: ' ' :: 'x' :: '=' :: '"' :: ('&' :: (name ++ [';']) ++ ['"'])

/-- A document with a reference as the value of an attribute. -/
def inAttribute (name : List Char) : List Char :=
  '<' :: (attributeContent name ++ ['/'] ++ ['>'])

variable {name : List Char}

theorem IsReferenceName.ne (h : IsReferenceName name) {mark : Char}
    (hmark : mark ∈ referenceMarks) :
    ∀ c ∈ name, c ≠ mark := by
  rintro c hc rfl
  exact (h.plain c hc).1 hmark

/-- The pieces of the document with a reference as its text. -/
def textFragment (name : List Char) : Fragment :=
  .element ⟨"a", [], false⟩ (.reference (String.ofList name) .nil) .nil

theorem write_textFragment (name : List Char) : (textFragment name).write = inText name := by
  simp [textFragment, Fragment.write, Element.write, Element.opening, Element.closing,
    Element.content, writeAttributes, inText]

theorem wellFormed_textFragment (h : IsReferenceName name) : (textFragment name).WellFormed := by
  have helement : Element.WellFormed ⟨"a", [], false⟩ :=
    ⟨by decide, fun _ hentry => absurd hentry List.not_mem_nil, List.nodup_nil⟩
  refine ⟨helement, fun hself => absurd hself Bool.false_ne_true, ⟨?_, trivial⟩, trivial⟩
  rw [String.toList_ofList]
  intro c hc
  exact ⟨h.ne (by decide) c hc, h.ne (by decide) c hc, h.ne (by decide) c hc⟩

theorem toOption_read_inText (h : IsReferenceName name) : (read (inText name)).toOption =
    (resolve? name).map fun c => ⟨"a", .empty, [.text (String.ofList [c])]⟩ := by
  have hread := toOption_read (wellFormed_textFragment h) (by rw [write_textFragment]; rfl)
  rw [write_textFragment] at hread
  rw [hread]
  show (((((Progress.enter ⟨[], none⟩ ⟨"a", [], false⟩).add?
    (.reference (String.ofList name).toList)).bind some).bind (·.add? .stop)).bind some).bind
      Progress.finish? = _
  rw [String.toList_ofList]
  cases hresolve : resolve? name with
  | some c =>
    rw [Progress.add?_reference _ hresolve]
    rfl
  | none =>
    unfold Progress.add? Progress.add
    dsimp only
    rw [hresolve]
    rfl

theorem IsReferenceName.notMem_quote (h : IsReferenceName name) : '"' ∉ '&' :: (name ++ [';']) := by
  have hquote : '"' ∉ name := fun hc => h.ne (by decide) '"' hc rfl
  simp [hquote]

/-- The document is one tag, whether the reference in it can be read or not. -/
theorem events_inAttribute (h : IsReferenceName name) : events (inAttribute name) =
    ([(Event.empty (Tag.ofContent (attributeContent name))).over 0 (inAttribute name)], none) := by
  have hplain : Balanced ['a', ' ', 'x', '='] := balanced_plain (by simp)
  have hbalanced : Balanced (attributeContent name) :=
    hplain.append (balanced_quoted h.notMem_quote)
  have hyields := @yields_emptyTag 0 [] _ _ (by decide : 'a' ∉ marks) hbalanced []
  rw [List.append_nil] at hyields
  have hmark : dropByteOrderMark (inAttribute name) = inAttribute name := rfl
  exact events_of_yields hmark hyields

theorem toOption_attributes_content (h : IsReferenceName name) :
    (Tag.attributes (Tag.ofContent (attributeContent name))).toOption =
      (attributeReference? name).map fun c => [("x", String.ofList [c])] := by
  have htag : Tag.ofContent (attributeContent name) =
      ⟨['a'], ' ' :: (['x'] ++ '=' :: '"' :: ('&' :: (name ++ [';']) ++ ['"']))⟩ := rfl
  have hkey : IsKey ['x'] := ⟨List.cons_ne_nil _ _, by simp [isMarkupBlank]⟩
  have hunescape := toOption_unescape_reference fun c hc =>
    ⟨h.ne (by decide : '&' ∈ referenceMarks) c hc, h.ne (by decide : ';' ∈ referenceMarks) c hc⟩
  have hmap : (attributeReference? name).map (fun c => [("x", String.ofList [c])]) =
      ((attributeReference? name).map fun c => [c]).map fun cs => [("x", String.ofList cs)] := by
    rw [Option.map_map]
    rfl
  rw [htag, attributes_single hkey h.notMem_quote, hmap, ← hunescape]
  cases unescape ('&' :: (name ++ [';'])) <;> rfl

theorem toOption_read_inAttribute (h : IsReferenceName name) :
    (read (inAttribute name)).toOption = (attributeReference? name).map fun c =>
      ⟨"a", .ofList [("x", String.ofList [c])], []⟩ := by
  have hattributes := toOption_attributes_content h
  rw [toOption_read_of_events (events_inAttribute h), Progress.addAll?_singleton]
  unfold Event.over Progress.add? Progress.add Progress.open
  dsimp only
  cases hresolve : attributeReference? name with
  | some c =>
    rw [hresolve] at hattributes
    rw [eq_ok_of_toOption hattributes]
    rfl
  | none =>
    rw [hresolve] at hattributes
    cases hread : Tag.attributes (Tag.ofContent (attributeContent name)) with
    | error fault => rfl
    | ok attributes =>
      rw [hread] at hattributes
      cases hattributes

/-- A document is read if the reference in it stands for a character. -/
theorem exists_read_iff {source : List Char} {character : Option Char} {f : Char → Document}
    (h : (read source).toOption = character.map f) :
    (∃ d, read source = .ok d) ↔ character.isSome = true := by
  rw [Option.isSome_iff_exists]
  constructor
  · rintro ⟨d, hd⟩
    rw [hd] at h
    obtain ⟨c, hc, -⟩ := Option.map_eq_some_iff.1 h.symm
    exact ⟨c, hc⟩
  · rintro ⟨c, rfl⟩
    exact ⟨f c, eq_ok_of_toOption h⟩

/-- **A reference is accepted in text exactly if it is in an attribute value, and means the same
there.** With a capital `X` it is a numeral in text only, the one with a small `x`. -/
theorem accepted_alike (h : IsReferenceName name) (hloose : ¬ Loose name) :
    (¬ ['#', 'X'] <+: name →
      ((∃ d, read (inText name) = .ok d) ↔ ∃ d, read (inAttribute name) = .ok d)) ∧
      (∀ d d', read (inText name) = .ok d → read (inAttribute name) = .ok d' →
        d'.attributes.get? "x" = some d.textContent) ∧
      ∀ hex, name = '#' :: 'X' :: hex → (¬ ∃ d, read (inAttribute name) = .ok d) ∧
        (read (inText name)).toOption = (read (inText ('#' :: 'x' :: hex))).toOption := by
  have htext := toOption_read_inText h
  have hattribute := toOption_read_inAttribute h
  refine ⟨fun hcapital => ?_, fun d d' hd hd' => ?_, ?_⟩
  · rw [exists_read_iff htext, exists_read_iff hattribute, attributeReference?_eq hloose hcapital]
  · rw [hd] at htext
    rw [hd'] at hattribute
    obtain ⟨c, hc, rfl⟩ := Option.map_eq_some_iff.1 htext.symm
    obtain ⟨c', hc', rfl⟩ := Option.map_eq_some_iff.1 hattribute.symm
    -- otherwise the attribute value would not have been read
    have hcapital : ¬ ['#', 'X'] <+: name := by
      rintro ⟨hex, rfl⟩
      cases hc'
    rw [attributeReference?_eq hloose hcapital, hc] at hc'
    cases hc'
    show some (String.ofList [c]) = some (String.ofList [c] ++ "")
    rw [String.append_empty]
  · rintro hex rfl
    have hsmall : IsReferenceName ('#' :: 'x' :: hex) := by
      obtain ⟨hnumber, hcapital⟩ := List.forall_mem_cons.1 h.plain
      obtain ⟨-, hhex⟩ := List.forall_mem_cons.1 hcapital
      refine ⟨List.cons_ne_nil _ _, List.forall_mem_cons.2 ⟨hnumber, ?_⟩⟩
      exact List.forall_mem_cons.2 ⟨by decide, hhex⟩
    rw [exists_read_iff hattribute, attributeReference?_capital, htext, resolve?_capital,
      toOption_read_inText hsmall]
    exact ⟨Bool.false_ne_true, rfl⟩

theorem accepted_alike_euro :
    IsReferenceName "#x20AC".toList ∧ ¬ Loose "#x20AC".toList ∧
      ((∃ d, read (inText "#x20AC".toList) = .ok d) ↔
        ∃ d, read (inAttribute "#x20AC".toList) = .ok d) := by
  have hname : IsReferenceName "#x20AC".toList := by decide +kernel
  have hloose : ¬ Loose "#x20AC".toList := by decide +kernel
  exact ⟨hname, hloose, (accepted_alike hname hloose).1 (by decide)⟩

/-- The numeral with a capital `X` is a letter in text and an error in an attribute value. -/
theorem read_capital :
    IsReferenceName "#X41".toList ∧
      (∃ d, read (inText "#X41".toList) = .ok d ∧ d.textContent = "A") ∧
      ¬ ∃ d, read (inAttribute "#X41".toList) = .ok d := by
  have hname : IsReferenceName "#X41".toList := by decide +kernel
  have hresolve : resolve? "#X41".toList = some 'A' := by decide +kernel
  have htext := toOption_read_inText hname
  rw [hresolve] at htext
  refine ⟨hname, ⟨_, eq_ok_of_toOption htext, rfl⟩, ?_⟩
  rw [exists_read_iff (toOption_read_inAttribute hname)]
  decide +kernel

end Island

end TagTemplate
