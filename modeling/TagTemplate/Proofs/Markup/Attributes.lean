import TagTemplate.Markup.Tag
import TagTemplate.Proofs.OrderedMap
import TagTemplate.Proofs.Text.Search

/-!
# Attributes read back

An attribute written as ` key="value"`, with the value escaped, is read as it was.

- `unescape_escape`: replacing the references of an escaped text gives the text back;
- `notMem_escape`: an escaped text holds no quotes and no angle brackets;
- `readAttribute_write`: one attribute is read up to its closing quote;
- `readAttributes_cons`: one attribute among those after it;
- `attributes_write`: **a tag with attributes of different names has these attributes**.
-/

namespace TagTemplate.Markup

open TagTemplate.Text

/-! ## Values -/

/-- The names of entities are made of small letters. -/
theorem isLower_of_predefined? {name : List Char} {d : Char} (h : predefined? name = some d) :
    ∀ c ∈ name, c.isLower = true := by
  unfold predefined? at h
  split_ifs at h with hlt hgt hamp hapos hquot
  · exact hlt ▸ List.all_eq_true.1 rfl
  · exact hgt ▸ List.all_eq_true.1 rfl
  · exact hamp ▸ List.all_eq_true.1 rfl
  · exact hapos ▸ List.all_eq_true.1 rfl
  · exact hquot ▸ List.all_eq_true.1 rfl

/-- A character is escaped to its entity, or stands for itself. -/
theorem escapeChar_cases (c : Char) :
    escapeChar c = [c] ∧ c ∉ ['<', '>', '&', '\'', '"'] ∨
      ∃ name, predefined? name = some c ∧ escapeChar c = '&' :: (name ++ [';']) := by
  unfold escapeChar
  split_ifs with hlt hgt hamp hapos hquot
  · exact .inr ⟨['l', 't'], hlt ▸ rfl, rfl⟩
  · exact .inr ⟨['g', 't'], hgt ▸ rfl, rfl⟩
  · exact .inr ⟨['a', 'm', 'p'], hamp ▸ rfl, rfl⟩
  · exact .inr ⟨['a', 'p', 'o', 's'], hapos ▸ rfl, rfl⟩
  · exact .inr ⟨['q', 'u', 'o', 't'], hquot ▸ rfl, rfl⟩
  · refine .inl ⟨rfl, ?_⟩
    simp only [List.mem_cons, List.not_mem_nil, or_false, not_or]
    exact ⟨hlt, hgt, hamp, hapos, hquot⟩

/-- Escaped text holds none of the characters that end a value or a tag. -/
theorem notMem_escape {d : Char} (h : d ∈ ['<', '>', '\'', '"']) (cs : List Char) :
    d ∉ escape cs := by
  intro hmem
  obtain ⟨c, -, hc⟩ := List.mem_flatMap.1 hmem
  rcases escapeChar_cases c with ⟨heq, hplain⟩ | ⟨name, hname, heq⟩
  · rw [heq, List.mem_singleton] at hc
    subst hc
    have hall : ['<', '>', '\'', '"'] ⊆ ['<', '>', '&', '\'', '"'] := by decide
    exact hplain (hall h)
  · obtain ⟨hlower, hamp, hend⟩ : d.isLower = false ∧ d ≠ '&' ∧ d ≠ ';' := by
      simp only [List.mem_cons, List.not_mem_nil, or_false] at h
      rcases h with rfl | rfl | rfl | rfl <;> decide
    rw [heq, List.mem_cons, List.mem_append, List.mem_singleton] at hc
    rcases hc with hc | hc | hc
    · exact hamp hc
    · rw [isLower_of_predefined? hname d hc] at hlower
      cases hlower
    · exact hend hc

/-- The character of a reference in an attribute value; the name is at a byte of the value. -/
def referenced (position : Nat) (name : List Char) : Except AttributeFault Char :=
  match name with
  | '#' :: number => (strictCharacter number).mapError AttributeFault.badReference
  | _ => match predefined? name with
    | some c => .ok c
    | none => .error (.unknownEntity position (position + byteLength name) (String.ofList name))

theorem unescapeFrom_reference {name : List Char} (h : ∀ c ∈ name, c ≠ '&' ∧ c ≠ ';')
    (total fuel position : Nat) (rest : List Char) :
    unescapeFrom total (fuel + 1) position ('&' :: (name ++ ';' :: rest)) =
      (referenced (position + 1) name).bind fun c =>
        (unescapeFrom total fuel (position + 1 + byteLength name + 1) rest).map (c :: ·) := by
  have hspan : (name ++ ';' :: rest).span (fun c => c ≠ '&' && c ≠ ';') = (name, ';' :: rest) := by
    refine span_append (fun c hc => ?_) (by simp)
    obtain ⟨hamp, hend⟩ := h c hc
    simp [hamp, hend]
  rw [unescapeFrom, if_pos rfl, hspan]
  dsimp only
  split
  · rename_i heq
    cases heq
    rfl
  · rename_i hnone
    exact absurd rfl (hnone rest)

theorem unescapeFrom_entity {name : List Char} {d : Char} (h : predefined? name = some d)
    (total fuel position : Nat) (rest : List Char) :
    unescapeFrom total (fuel + 1) position ('&' :: (name ++ ';' :: rest)) =
      (unescapeFrom total fuel (position + 1 + byteLength name + 1) rest).map (d :: ·) := by
  have hlower := isLower_of_predefined? h
  have hname : ∀ c ∈ name, c ≠ '&' ∧ c ≠ ';' := by
    intro c hc
    constructor <;> rintro rfl <;> cases hlower _ hc
  have hreferenced : referenced (position + 1) name = .ok d := by
    unfold referenced
    split
    · cases hlower '#' List.mem_cons_self
    · rw [h]
  rw [unescapeFrom_reference hname, hreferenced]
  rfl

/-- Each character takes at least one step, and what it is escaped to is at least that long. -/
theorem unescapeFrom_escape (total : Nat) (cs : List Char) {fuel : Nat}
    (hfuel : (escape cs).length ≤ fuel) (position : Nat) :
    unescapeFrom total fuel position (escape cs) = .ok cs := by
  induction cs generalizing fuel position with
  | nil => cases fuel <;> rfl
  | cons c cs ih =>
    have hsplit : escape (c :: cs) = escapeChar c ++ escape cs := rfl
    rw [hsplit, List.length_append] at hfuel
    -- a character is itself or an entity, and either takes one unit of fuel
    rcases escapeChar_cases c with ⟨heq, hplain⟩ | ⟨name, hname, heq⟩
    · rw [heq, List.length_singleton] at hfuel
      obtain ⟨fuel, rfl⟩ : ∃ n, fuel = n + 1 := ⟨fuel - 1, by omega⟩
      have hamp : c ≠ '&' := fun hc => hplain (by simp [hc])
      rw [hsplit, heq, List.singleton_append, unescapeFrom, if_neg hamp, ih (by omega)]
      rfl
    · rw [heq, List.length_cons] at hfuel
      obtain ⟨fuel, rfl⟩ : ∃ n, fuel = n + 1 := ⟨fuel - 1, by omega⟩
      rw [hsplit, heq, List.cons_append, List.append_assoc, List.singleton_append,
        unescapeFrom_entity hname, ih (by omega)]
      rfl

/-- Replacing the references of an escaped text gives the text back. -/
theorem unescape_escape (cs : List Char) : unescape (escape cs) = .ok cs :=
  unescapeFrom_escape _ cs (Nat.le_refl _) 0

/-! ## Attributes -/

/-- An attribute as it is written in a tag. -/
def writeAttribute (entry : String × String) : List Char :=
  ' ' :: (entry.1.toList ++ '=' :: '"' :: (escape entry.2.toList ++ ['"']))

/-- The attributes of a tag as they are written. -/
def writeAttributes (attributes : List (String × String)) : List Char :=
  attributes.flatMap writeAttribute

/-- Text that can be the key of an attribute: there is something of it, and nothing in it ends a
key. -/
def IsKey (key : List Char) : Prop := key ≠ [] ∧ ∀ c ∈ key, c ≠ '=' ∧ isMarkupBlank c = false

/-- One attribute is read up to its closing quote, whatever its value is written with. -/
theorem readAttribute_write {seen : List (List Char × Nat)} {c : Char} {keyTail : List Char}
    (hkey : IsKey (c :: keyTail)) (hnew : seen.lookup (c :: keyTail) = none) (position : Nat)
    {value : List Char} (hvalue : '"' ∉ value) (rest : List Char) :
    ∃ stop, readAttribute seen position c (keyTail ++ '=' :: '"' :: (value ++ '"' :: rest)) =
      .ok (⟨c :: keyTail, position, value⟩, stop, rest) := by
  have hspanKey : (keyTail ++ '=' :: '"' :: (value ++ '"' :: rest)).span
      (fun d => d ≠ '=' && !isMarkupBlank d) = (keyTail, '=' :: '"' :: (value ++ '"' :: rest)) := by
    refine span_append (fun d hd => ?_) (by simp)
    obtain ⟨hequals, hblank⟩ := hkey.2 d (List.mem_cons_of_mem c hd)
    simp [hequals, hblank]
  have hspanValue : (value ++ '"' :: rest).span (fun d => d ≠ '"') = (value, '"' :: rest) := by
    refine span_append (fun d hd => decide_eq_true ?_) (by simp)
    rintro rfl
    exact hvalue hd
  have hgap : ∀ d cs, isMarkupBlank d = false → (d :: cs).span isMarkupBlank = ([], d :: cs) :=
    fun d cs hd => @span_append _ [] _ nofun (by simpa using hd)
  simp only [readAttribute, hspanKey, hgap '=' _ rfl, hnew, hgap '"' _ rfl, true_or, if_true,
    hspanValue]
  exact ⟨_, rfl⟩

/-- One attribute is read and its references replaced, then the attributes after it. -/
theorem readAttributes_cons {seen : List (List Char × Nat)} {key : List Char} (hkey : IsKey key)
    (hnew : seen.lookup key = none) {value : List Char} (hvalue : '"' ∉ value)
    (fuel position : Nat) (rest : List Char) :
    ∃ stop, readAttributes (fuel + 1) seen position
        (' ' :: (key ++ '=' :: '"' :: (value ++ '"' :: rest))) =
      (unescape value).bind fun cs =>
        (readAttributes fuel (seen ++ [(key, position + 1)]) stop rest).bind fun others =>
          .ok ((String.ofList key, String.ofList cs) :: others) := by
  obtain ⟨c, keyTail, rfl⟩ := List.exists_cons_of_ne_nil hkey.1
  have hblank : isMarkupBlank c = false := (hkey.2 c List.mem_cons_self).2
  have hspan :
      ([' '] ++ c :: (keyTail ++ '=' :: '"' :: (value ++ '"' :: rest))).span isMarkupBlank =
        ([' '], c :: (keyTail ++ '=' :: '"' :: (value ++ '"' :: rest))) :=
    span_append (by simp [isMarkupBlank]) (by simpa using hblank)
  obtain ⟨stop, hread⟩ := readAttribute_write hkey hnew (position + 1) hvalue rest
  refine ⟨stop, ?_⟩
  rw [List.singleton_append] at hspan
  rw [List.cons_append, readAttributes, hspan]
  dsimp only [List.length_singleton]
  rw [hread]
  rfl

theorem writeAttributes_cons (name value : String) (attributes : List (String × String)) :
    writeAttributes ((name, value) :: attributes) = ' ' :: (name.toList ++ '=' :: '"' ::
      (escape value.toList ++ '"' :: writeAttributes attributes)) := by
  rw [writeAttributes, List.flatMap_cons, writeAttribute]
  simp [writeAttributes]

/-- A key that was read is no key of an attribute with another name. -/
theorem lookup_seen {seen : List (List Char × Nat)} {name other : String} (hne : other ≠ name)
    (hnew : seen.lookup other.toList = none) (position : Nat) :
    (seen ++ [(name.toList, position)]).lookup other.toList = none := by
  have hb : (other.toList == name.toList) = false := by
    rw [beq_eq_false_iff_ne]
    exact fun heq => hne (String.toList_inj.1 heq)
  rw [List.lookup_append, hnew, Option.none_or, List.lookup_cons, hb]
  rfl

/-- Attributes of different names, none of which came before, are read as they were. -/
theorem readAttributes_write {attributes : List (String × String)}
    (hkeys : ∀ entry ∈ attributes, IsKey entry.1.toList)
    (hdistinct : (attributes.map Prod.fst).Nodup) {seen : List (List Char × Nat)}
    (hnew : ∀ entry ∈ attributes, seen.lookup entry.1.toList = none) {fuel : Nat}
    (hfuel : attributes.length < fuel) (position : Nat) :
    readAttributes fuel seen position (writeAttributes attributes) = .ok attributes := by
  obtain ⟨fuel, rfl⟩ : ∃ n, fuel = n + 1 := ⟨fuel - 1, by omega⟩
  induction attributes generalizing seen fuel position with
  | nil => rfl
  | cons entry attributes ih =>
    obtain ⟨name, value⟩ := entry
    obtain ⟨hkey, hkeys⟩ := List.forall_mem_cons.1 hkeys
    obtain ⟨hfirst, hnew⟩ := List.forall_mem_cons.1 hnew
    rw [List.map_cons, List.nodup_cons] at hdistinct
    rw [List.length_cons] at hfuel
    obtain ⟨fuel, rfl⟩ : ∃ n, fuel = n + 1 := ⟨fuel - 1, by omega⟩
    -- a key that comes twice is an error, so the names must differ from those seen before
    have hothers : ∀ entry ∈ attributes,
        (seen ++ [(name.toList, position + 1)]).lookup entry.1.toList = none := by
      intro entry hentry
      have hne : entry.1 ≠ name := fun heq => hdistinct.1 (List.mem_map.2 ⟨entry, hentry, heq⟩)
      exact lookup_seen hne (hnew entry hentry) (position + 1)
    have hvalue : '"' ∉ escape value.toList := notMem_escape (by decide) value.toList
    obtain ⟨stop, hread⟩ := readAttributes_cons hkey hfirst hvalue (fuel + 1) position
      (writeAttributes attributes)
    rw [writeAttributes_cons, hread, unescape_escape]
    show (readAttributes (fuel + 1) _ stop _).bind _ = _
    rw [ih hkeys hdistinct.2 hothers stop fuel (by omega)]
    show Except.ok ((String.ofList name.toList, String.ofList value.toList) :: attributes) = _
    rw [String.ofList_toList, String.ofList_toList]

/-! ## Tags -/

/-- Attributes begin with a blank. -/
theorem head?_writeAttributes (attributes : List (String × String)) :
    ∀ d ∈ (writeAttributes attributes).head?, d = ' ' := by
  cases attributes with
  | nil => exact nofun
  | cons entry attributes =>
    intro d hd
    exact (Option.some.inj hd).symm

theorem length_le_writeAttributes (attributes : List (String × String)) :
    attributes.length ≤ (writeAttributes attributes).length := by
  induction attributes with
  | nil => exact Nat.le_refl _
  | cons entry attributes ih =>
    have hfirst : 0 < (writeAttribute entry).length := Nat.succ_pos _
    rw [writeAttributes, List.flatMap_cons, List.length_append, List.length_cons]
    rw [writeAttributes] at ih
    omega

/-- A tag is cut after its name. -/
theorem ofContent_write {name : List Char} (h : ∀ c ∈ name, isMarkupBlank c = false)
    (attributes : List (String × String)) :
    Tag.ofContent (name ++ writeAttributes attributes) = ⟨name, writeAttributes attributes⟩ := by
  have hspan : (name ++ writeAttributes attributes).span (fun c => !isMarkupBlank c) =
      (name, writeAttributes attributes) := by
    refine span_append (fun c hc => ?_) (fun d hd => ?_)
    · rw [h c hc]
      rfl
    · rw [head?_writeAttributes attributes d hd]
      rfl
  rw [Tag.ofContent, hspan]

/-- **A tag with attributes of different names has these attributes.** -/
theorem attributes_write {attributes : List (String × String)}
    (hkeys : ∀ entry ∈ attributes, IsKey entry.1.toList)
    (hdistinct : (attributes.map Prod.fst).Nodup) (name : List Char) :
    Tag.attributes ⟨name, writeAttributes attributes⟩ = .ok attributes :=
  readAttributes_write hkeys hdistinct (fun _ _ => rfl)
    (Nat.lt_succ_of_le (length_le_writeAttributes attributes)) _

end TagTemplate.Markup
