import TagTemplate.Proofs.Island.Selection
import TagTemplate.Proofs.Markup.Fragment
import TagTemplate.Proofs.Number.Numeral
import TagTemplate.Proofs.Text.Classes

/-!
# Queries written out and read again

`writeQuery` writes the steps of a location path, each with the quote that its attribute value
stands in. What is written reads back as these steps, whatever the values hold besides their quote.

- `Tight`: text without white space at its ends, which is what `trim` gives and what it leaves;
- `Uncut`: text that a step does not end in, its quotes and brackets being closed;
- `tight_of_readQuery`: **no step that is read from any text has white space around its names**;
- `tight_name_iff`: there is one character that a name of XML may begin or end with and that is
  white space all the same, the Ogham space mark;
- `Step.tight_iff`: the same for all names of a step, by the characters at their ends;
- `readQuery_write`: **a query that is written reads back as its steps** exactly if they have none.
-/

namespace TagTemplate

namespace Text

/-! ## White space at the ends -/

/-- The text neither begins nor ends with white space. -/
structure Tight (cs : List Char) : Prop where
  head : ∀ c ∈ cs.head?, isBlank c = false
  last : ∀ c ∈ cs.getLast?, isBlank c = false

theorem tight_nil : Tight [] := ⟨nofun, nofun⟩

theorem Tight.append {cs ds : List Char} (h : Tight cs) (h' : Tight ds) : Tight (cs ++ ds) := by
  constructor
  · intro c hc
    cases cs with
    | nil => exact h'.head c hc
    | cons d cs => exact h.head c hc
  · intro c hc
    rcases List.eq_nil_or_concat ds with rfl | ⟨front, d, rfl⟩
    · rw [List.append_nil] at hc
      exact h.last c hc
    · refine h'.last c ?_
      simpa using hc

theorem tight_of_forall {cs : List Char} (h : ∀ c ∈ cs, isBlank c = false) : Tight cs :=
  ⟨fun c hc => h c (List.mem_of_head? hc), fun c hc => h c (List.mem_of_getLast? hc)⟩

theorem tight_singleton {c : Char} (h : isBlank c = false) : Tight [c] :=
  tight_of_forall fun _ hd => List.mem_singleton.1 hd ▸ h

/-- What is between the ends does not matter. -/
theorem tight_between {first last : Char} (hfirst : isBlank first = false)
    (hlast : isBlank last = false) (cs : List Char) : Tight (first :: (cs ++ [last])) := by
  refine ⟨fun c hc => ?_, fun c hc => ?_⟩
  · rw [← Option.some.inj hc]
    exact hfirst
  · rw [← List.cons_append, List.getLast?_concat] at hc
    rw [← Option.some.inj hc]
    exact hlast

theorem dropWhile_of_head? {cs : List Char} (h : ∀ c ∈ cs.head?, isBlank c = false) :
    cs.dropWhile isBlank = cs := by
  cases cs with
  | nil => rfl
  | cons c cs => exact List.dropWhile_cons_of_neg (by simp [h c rfl])

theorem Tight.trim {cs : List Char} (h : Tight cs) : trim cs = cs := by
  have hlast : ∀ c ∈ cs.reverse.head?, isBlank c = false := by
    rw [List.head?_reverse]
    exact h.last
  rw [Text.trim, trimStart, dropWhile_of_head? h.head, trimEnd, dropWhile_of_head? hlast,
    List.reverse_reverse]

/-- Nothing is left to trim in trimmed text. -/
theorem tight_trim (cs : List Char) : Tight (trim cs) := by
  have hdrop : ∀ ds : List Char, ∀ c ∈ (ds.dropWhile isBlank).head?, isBlank c = false := by
    intro ds c hc
    have hnot := List.head?_dropWhile_not isBlank ds
    rw [Option.mem_def.1 hc] at hnot
    exact Bool.eq_false_iff.2 (by simpa using hnot)
  constructor
  · -- what is left of the start after trimming the end begins as the start does
    intro c hc
    have hfront : trim cs <+: trimStart cs := by
      rw [Text.trim, trimEnd, ← List.reverse_suffix, List.reverse_reverse]
      exact List.dropWhile_suffix isBlank
    obtain ⟨more, hmore⟩ := hfront
    refine hdrop cs c ?_
    rw [show cs.dropWhile isBlank = trim cs ++ more from hmore.symm, List.head?_append, hc]
    rfl
  · intro c hc
    rw [Text.trim, trimEnd, List.getLast?_reverse] at hc
    exact hdrop _ c hc

/-- Text without white space at its ends is what `trim` leaves as it is. -/
theorem trim_eq_self_iff {cs : List Char} : trim cs = cs ↔ Tight cs :=
  ⟨fun h => h ▸ tight_trim cs, Tight.trim⟩

instance (cs : List Char) : Decidable (Tight cs) := decidable_of_iff _ trim_eq_self_iff

end Text

namespace Island

open TagTemplate.Text TagTemplate.Markup

/-! ## Text that a step does not end in -/

/-- A step goes on over this text, and the brackets and quotes that open in it close in it. -/
def Uncut (depth : Nat) (cs : List Char) : Prop :=
  ∀ rest, breakStep depth none (cs ++ rest) = prepend cs (breakStep depth none rest)

theorem prepend_prepend (text more : List Char) (cut : List Char × List Char) :
    prepend text (prepend more cut) = prepend (text ++ more) cut := by
  simp [prepend]

theorem uncut_nil (depth : Nat) : Uncut depth [] := fun _ => rfl

theorem Uncut.append {depth : Nat} {cs ds : List Char} (h : Uncut depth cs) (h' : Uncut depth ds) :
    Uncut depth (cs ++ ds) := by
  intro rest
  rw [List.append_assoc, h, h', prepend_prepend]

/-- What matters to where a step ends. -/
def stepMarks : List Char := ['/', '[', ']', '\'', '"']

theorem uncut_plain {cs : List Char} (h : ∀ c ∈ cs, c ∉ stepMarks) (depth : Nat) :
    Uncut depth cs := by
  induction cs with
  | nil => exact uncut_nil depth
  | cons c cs ih =>
    obtain ⟨hc, hcs⟩ := List.forall_mem_cons.1 h
    have hslash : c ≠ '/' := by
      rintro rfl
      exact hc (by decide)
    have hopen : c ≠ '[' := by
      rintro rfl
      exact hc (by decide)
    have hclose : c ≠ ']' := by
      rintro rfl
      exact hc (by decide)
    have hquote : ¬(c = '\'' ∨ c = '"') := by
      rintro (rfl | rfl) <;> exact hc (by decide)
    intro rest
    rw [List.cons_append, breakStep, if_neg (fun h => hslash h.1), if_neg hopen, if_neg hclose,
      if_neg hquote]
    dsimp only
    rw [ih hcs]
    rfl

/-- Inside of quotes only the closing quote matters. -/
theorem breakStep_quoted {quote : Char} {cs : List Char} (h : quote ∉ cs) (depth : Nat)
    (rest : List Char) : breakStep depth (some quote) (cs ++ quote :: rest) =
      prepend (cs ++ [quote]) (breakStep depth none rest) := by
  induction cs with
  | nil =>
    rw [List.nil_append, breakStep, if_pos rfl]
    rfl
  | cons c cs ih =>
    rw [List.mem_cons, not_or] at h
    rw [List.cons_append, breakStep, if_neg (Ne.symm h.1), ih h.2]
    rfl

/-- The text can stand in these quotes. -/
def Quotable (quote : Char) (value : List Char) : Prop :=
  (quote = '\'' ∨ quote = '"') ∧ quote ∉ value

instance (quote : Char) (value : List Char) : Decidable (Quotable quote value) :=
  inferInstanceAs (Decidable (_ ∧ _))

theorem uncut_quoted {quote : Char} {value : List Char} (h : Quotable quote value) (depth : Nat) :
    Uncut depth (quote :: (value ++ [quote])) := by
  obtain ⟨hquote, hvalue⟩ := h
  intro rest
  have hopened : breakStep depth none (quote :: (value ++ quote :: rest)) =
      prepend [quote] (breakStep depth (some quote) (value ++ quote :: rest)) := by
    rcases hquote with rfl | rfl <;> rfl
  rw [List.cons_append, List.append_assoc, List.singleton_append, hopened, breakStep_quoted hvalue,
    prepend_prepend]
  rfl

/-- Brackets may stand around what does not end a step one bracket deeper. -/
theorem Uncut.bracketed {depth : Nat} {cs : List Char} (h : Uncut (depth + 1) cs) :
    Uncut depth ('[' :: (cs ++ [']'])) := by
  intro rest
  have hopened : breakStep depth none ('[' :: (cs ++ ']' :: rest)) =
      prepend ['['] (breakStep (depth + 1) none (cs ++ ']' :: rest)) := rfl
  have hclosed : breakStep (depth + 1) none (']' :: rest) =
      prepend [']'] (breakStep depth none rest) := by
    rw [breakStep, if_neg (by simp)]
    rfl
  rw [List.cons_append, List.append_assoc, List.singleton_append, hopened, h, hclosed,
    prepend_prepend, prepend_prepend]
  rfl

/-- A step ends at the separator of the next one, or with the query. -/
theorem Uncut.breakStep {cs rest : List Char} (h : Uncut 0 cs) (hrest : ∀ d ∈ rest.head?, d = '/') :
    breakStep 0 none (cs ++ rest) = (cs, rest) := by
  have hstop : Island.breakStep 0 none rest = ([], rest) := by
    cases rest with
    | nil => rfl
    | cons d rest =>
      obtain rfl := hrest d rfl
      rfl
  rw [h, hstop, prepend, List.append_nil]

/-! ## Names -/

/-- What a test may have as its name: a name, or `*` for any. -/
def IsTestName (name : String) : Prop := name = "*" ∨ isName name.toList = true

instance (name : String) : Decidable (IsTestName name) := inferInstanceAs (Decidable (_ ∨ _))

/-- The characters that queries are made with besides names and digits. -/
def queryMarks : List Char := stepMarks ++ ['=', '@', '(']

theorem notMem_stepMarks {c : Char} (h : c ∉ queryMarks) : c ∉ stepMarks :=
  fun hc => h (List.mem_append_left _ hc)

/-- A query is not cut inside of a name. -/
theorem notMem_queryMarks {name : List Char} (h : isName name = true) :
    ∀ c ∈ name, c ∉ queryMarks := by
  have hmarks : queryMarks.any (inRanges nameRanges) = false := by decide
  intro c hc hmark
  exact List.any_eq_false.1 hmarks c hmark (inRanges_of_name h c hc)

theorem IsTestName.notMem_queryMarks {name : String} (h : IsTestName name) :
    ∀ c ∈ name.toList, c ∉ queryMarks := by
  rcases h with rfl | h
  · simp [queryMarks, stepMarks]
  · exact Island.notMem_queryMarks h

theorem IsTestName.ne_nil {name : String} (h : IsTestName name) : name.toList ≠ [] := by
  rcases h with rfl | h
  · decide
  · intro hnil
    rw [hnil] at h
    cases h

/-- White space that a name may hold is the Ogham space mark. -/
theorem eq_of_isBlank_of_inRanges {c : Char} (hname : inRanges nameRanges c = true)
    (hblank : isBlank c = true) : c = '\u1680' := by
  obtain ⟨r, hr, hlow, hhigh⟩ := inRanges_iff.1 hname
  obtain ⟨q, hq, hlow', hhigh'⟩ := inRanges_iff.1 hblank
  have hcommon : ∀ r ∈ nameRanges, ∀ q ∈ blankRanges,
      r.2 < q.1 ∨ q.2 < r.1 ∨ q = (0x1680, 0x1680) := by
    decide +kernel
  rcases hcommon r hr q hq with h | h | rfl
  · omega
  · omega
  · have hnat : c.toNat = '\u1680'.toNat := Nat.le_antisymm hhigh' hlow'
    rw [← Char.ofNat_toNat c, hnat, Char.ofNat_toNat]

/-- **A name has no white space at its ends** exactly if it neither begins nor ends with the Ogham
space mark. -/
theorem tight_name_iff {name : List Char} (h : isName name = true) :
    Tight name ↔ name.head? ≠ some '\u1680' ∧ name.getLast? ≠ some '\u1680' := by
  have hblank : ∀ c ∈ name, isBlank c = true → c = '\u1680' := fun c hc =>
    eq_of_isBlank_of_inRanges (inRanges_of_name h c hc)
  constructor
  · intro htight
    refine ⟨fun hhead => ?_, fun hlast => ?_⟩
    · exact absurd (htight.head _ hhead) (by decide)
    · exact absurd (htight.last _ hlast) (by decide)
  · rintro ⟨hhead, hlast⟩
    refine ⟨fun c hc => Bool.eq_false_iff.2 ?_, fun c hc => Bool.eq_false_iff.2 ?_⟩
    · intro hc'
      obtain rfl := hblank c (List.mem_of_head? hc) hc'
      exact hhead hc
    · intro hc'
      obtain rfl := hblank c (List.mem_of_getLast? hc) hc'
      exact hlast hc

/-! ## Writing queries -/

/-- The test as text. -/
def NodeTest.write : NodeTest → List Char
  | .element name => name.toList
  | .text => ['t', 'e', 'x', 't', '(', ')']
  | .attr name => '@' :: name.toList

/-- What stands in the brackets of a predicate. -/
def Predicate.inner (quote : Char) : Predicate → List Char
  | .always => []
  | .position n => Number.digits n
  | .hasAttribute name => '@' :: name.toList
  | .attributeIs name value => '@' :: (name.toList ++ '=' :: quote :: (value.toList ++ [quote]))

/-- The predicate as text, its value in quotes. -/
def Predicate.write (quote : Char) (p : Predicate) : List Char :=
  if p = .always then [] else '[' :: (p.inner quote ++ [']'])

/-- The separator in front of a step. -/
def Step.separator (s : Step) : List Char := if s.descendant then ['/', '/'] else ['/']

/-- The step as text, without its separator. -/
def Step.body (quote : Char) (s : Step) : List Char := s.test.write ++ s.predicate.write quote

/-- Steps, each with the quote for its value. -/
abbrev QuotedSteps := List (Step × Char)

/-- The steps one after the other. -/
def writeSteps (quoted : QuotedSteps) : List Char :=
  quoted.flatMap fun (step, quote) => step.separator ++ step.body quote

/-- The query as text; without steps it is `/`. -/
def writeQuery (quoted : QuotedSteps) : List Char :=
  if quoted = [] then ['/'] else writeSteps quoted

/-! ## Steps that can be written -/

def NodeTest.WellFormed : NodeTest → Prop
  | .element name => IsTestName name
  | .text => True
  | .attr name => IsTestName name

instance : (test : NodeTest) → Decidable test.WellFormed
  | .element name => inferInstanceAs (Decidable (IsTestName name))
  | .text => isTrue trivial
  | .attr name => inferInstanceAs (Decidable (IsTestName name))

/-- Positions begin at one and fit a word, and the value can stand in the quotes. -/
def Predicate.WellFormed (quote : Char) : Predicate → Prop
  | .always => True
  | .position n => 0 < n ∧ n < Nat.pow 2 64
  | .hasAttribute name => isName name.toList = true
  | .attributeIs name value => isName name.toList = true ∧ Quotable quote value.toList

instance (quote : Char) : (p : Predicate) → Decidable (p.WellFormed quote)
  | .always => isTrue trivial
  | .position _ => inferInstanceAs (Decidable (_ ∧ _))
  | .hasAttribute name => inferInstanceAs (Decidable (isName name.toList = true))
  | .attributeIs _ _ => inferInstanceAs (Decidable (_ ∧ _))

/-- Name and value are as XML has them, and only elements have a predicate. -/
structure Step.WellFormed (quote : Char) (s : Step) : Prop where
  test : s.test.WellFormed
  predicate : s.predicate.WellFormed quote
  leaf : s.test.isElement = false → s.predicate = .always

instance (quote : Char) (s : Step) : Decidable (s.WellFormed quote) :=
  decidable_of_iff (s.test.WellFormed ∧ s.predicate.WellFormed quote ∧
      (s.test.isElement = false → s.predicate = .always))
    ⟨fun h => ⟨h.1, h.2.1, h.2.2⟩, fun h => ⟨h.test, h.predicate, h.leaf⟩⟩

/-- Only the last step may select texts or attributes. -/
structure QuotedSteps.WellFormed (quoted : QuotedSteps) : Prop where
  steps : ∀ entry ∈ quoted, entry.1.WellFormed entry.2
  leaf : ∀ step ∈ (quoted.map Prod.fst).dropLast, step.test.isElement = true

instance (quoted : QuotedSteps) : Decidable quoted.WellFormed :=
  decidable_of_iff ((∀ entry ∈ quoted, entry.1.WellFormed entry.2) ∧
      ∀ step ∈ (quoted.map Prod.fst).dropLast, step.test.isElement = true)
    ⟨fun h => ⟨h.1, h.2⟩, fun h => ⟨h.steps, h.leaf⟩⟩

/-- No name of the predicate has white space at its ends. -/
def Predicate.Tight : Predicate → Prop
  | .always => True
  | .position _ => True
  | .hasAttribute name => Text.Tight name.toList
  | .attributeIs name _ => Text.Tight name.toList

instance : (p : Predicate) → Decidable p.Tight
  | .always => isTrue trivial
  | .position _ => isTrue trivial
  | .hasAttribute name => inferInstanceAs (Decidable (Text.Tight name.toList))
  | .attributeIs name _ => inferInstanceAs (Decidable (Text.Tight name.toList))

/-- No name of the step has white space at its ends. A test is trimmed as a whole, so that what
follows an `@` is not the start of one. -/
structure Step.Tight (s : Step) : Prop where
  test : Text.Tight s.test.write
  predicate : s.predicate.Tight

instance (s : Step) : Decidable s.Tight :=
  decidable_of_iff (Text.Tight s.test.write ∧ s.predicate.Tight)
    ⟨fun h => ⟨h.1, h.2⟩, fun h => ⟨h.test, h.predicate⟩⟩

/-- The characters that a name begins and ends with. -/
def nameEnds (name : String) : List Char :=
  name.toList.head?.toList ++ name.toList.getLast?.toList

/-- The characters at the ends of a test, as far as they are those of a name. -/
def NodeTest.ends : NodeTest → List Char
  | .element name => nameEnds name
  | .text => []
  | .attr name => name.toList.getLast?.toList

/-- The characters at the ends of the name in a predicate. -/
def Predicate.ends : Predicate → List Char
  | .always => []
  | .position _ => []
  | .hasAttribute name => nameEnds name
  | .attributeIs name _ => nameEnds name

/-- The characters at the ends of the names of a step. -/
def Step.ends (s : Step) : List Char := s.test.ends ++ s.predicate.ends

theorem tight_iff_notMem_nameEnds {name : String} (h : isName name.toList = true) :
    Text.Tight name.toList ↔ '\u1680' ∉ nameEnds name := by
  rw [tight_name_iff h, nameEnds, List.mem_append, Option.mem_toList, Option.mem_toList, not_or]

theorem NodeTest.tight_iff {test : NodeTest} (h : test.WellFormed) :
    Text.Tight test.write ↔ '\u1680' ∉ test.ends := by
  cases test with
  | element name =>
    rcases h with rfl | hname
    · decide
    · exact tight_iff_notMem_nameEnds hname
  | text => decide
  | attr name =>
    -- the test begins with the `@`, so only the end of the name can be trimmed
    have hlast : ('@' :: name.toList).getLast? = name.toList.getLast? :=
      List.getLast?_cons_of_ne_nil (IsTestName.ne_nil h)
    rw [NodeTest.ends, Option.mem_toList]
    refine ⟨fun htight hmark => ?_, fun hmark => ⟨fun c hc => ?_, fun c hc => ?_⟩⟩
    · exact absurd (htight.last _ (hlast.trans hmark)) (by decide)
    · rw [← Option.some.inj hc]
      rfl
    · rw [NodeTest.write, hlast] at hc
      refine Bool.eq_false_iff.2 fun hblank => hmark ?_
      rcases h with rfl | hname
      · cases hc
        cases hblank
      · have hchar := inRanges_of_name hname c (List.mem_of_getLast? hc)
        exact eq_of_isBlank_of_inRanges hchar hblank ▸ hc

theorem Predicate.tight_iff {quote : Char} {p : Predicate} (h : p.WellFormed quote) :
    p.Tight ↔ '\u1680' ∉ p.ends := by
  cases p with
  | always => simp [Predicate.Tight, Predicate.ends]
  | position n => simp [Predicate.Tight, Predicate.ends]
  | hasAttribute name => exact tight_iff_notMem_nameEnds h
  | attributeIs name value => exact tight_iff_notMem_nameEnds h.1

/-- **No name of a step has white space at its ends** exactly if none has the Ogham space mark
there. -/
theorem Step.tight_iff {quote : Char} {s : Step} (h : s.WellFormed quote) :
    s.Tight ↔ '\u1680' ∉ s.ends := by
  rw [Step.ends, List.mem_append, not_or, ← NodeTest.tight_iff h.test,
    ← Predicate.tight_iff h.predicate]
  exact ⟨fun h => ⟨h.test, h.predicate⟩, fun h => ⟨h.1, h.2⟩⟩

/-! ## What is read from any text -/

theorem tight_of_readTest {query : String} {raw : List Char} {test : NodeTest}
    (h : readTest query raw = .ok test) : Text.Tight test.write := by
  have htrim := tight_trim raw
  unfold readTest at h
  split at h
  · cases h
  · rename_i name heq
    cases h
    rwa [heq, ← String.toList_ofList (l := name)] at htrim
  · split at h
    · cases h
      exact tight_between rfl rfl ['e', 'x', 't', '(']
    · cases h
      rw [NodeTest.write, String.toList_ofList]
      exact htrim

theorem tight_of_readPredicate {query : String} {inner : List Char} {p : Predicate}
    (h : readPredicate query inner = .ok p) : p.Tight := by
  unfold readPredicate at h
  split at h
  · cases h
  · cases h
    trivial
  · split at h
    · split at h
      · cases h
        rw [Predicate.Tight, String.toList_ofList]
        exact tight_trim _
      · split at h
        · cases h
          rw [Predicate.Tight, String.toList_ofList]
          exact tight_trim _
        · cases h
    · cases h

/-- **No step that is read from any text has white space around its names.** -/
theorem tight_of_readQuery {query : String} {steps : List Step}
    (h : readQuery query = .ok steps) : ∀ step ∈ steps, step.Tight := by
  intro step hstep
  obtain ⟨query, descendant, raw, hread⟩ := (readQuery_eq_ok h).1 step hstep
  obtain ⟨⟨text, htest⟩, hpredicate⟩ := readStep_eq_ok hread
  refine ⟨tight_of_readTest htest, ?_⟩
  rcases hpredicate with halways | ⟨inner, hinner⟩
  · rw [halways]
    trivial
  · exact tight_of_readPredicate hinner

/-! ## Reading what was written -/

theorem NodeTest.WellFormed.notMem_stepMarks {test : NodeTest} (h : test.WellFormed) :
    ∀ c ∈ test.write, c ∉ stepMarks := by
  cases test with
  | element name => exact fun c hc => Island.notMem_stepMarks (IsTestName.notMem_queryMarks h c hc)
  | text => simp [NodeTest.write, stepMarks]
  | attr name =>
    refine List.forall_mem_cons.2 ⟨by decide, fun c hc => ?_⟩
    exact Island.notMem_stepMarks (IsTestName.notMem_queryMarks h c hc)

theorem NodeTest.WellFormed.ne_nil {test : NodeTest} (h : test.WellFormed) : test.write ≠ [] := by
  cases test with
  | element name => exact IsTestName.ne_nil h
  | text => exact List.cons_ne_nil _ _
  | attr name => exact List.cons_ne_nil _ _

theorem readTest_write {query : String} {test : NodeTest} (h : test.WellFormed)
    (htight : Text.Tight test.write) : readTest query test.write = .ok test := by
  rw [readTest, htight.trim]
  cases test with
  | text => rfl
  | attr name => exact congrArg (Except.ok ∘ NodeTest.attr) String.ofList_toList
  | element name =>
    have hmarks := IsTestName.notMem_queryMarks h
    rw [NodeTest.write]
    split
    · rename_i hnil
      exact absurd hnil (IsTestName.ne_nil h)
    · rename_i hat
      exact absurd (by decide) (hmarks '@' (hat ▸ List.mem_cons_self))
    · rw [if_neg, String.ofList_toList]
      intro htext
      exact hmarks '(' (htext ▸ by decide) (by decide)

/-! ### Predicates -/

theorem not_isBlank_of_isDigit {c : Char} (h : c.isDigit = true) : isBlank c = false := by
  refine Bool.eq_false_iff.2 fun hblank => ?_
  have hnot := isAlphanumeric_of_isBlank hblank
  rw [isAlphanumeric_of_isDigit h] at hnot
  cases hnot

/-- Without a sign an index is its digits. -/
theorem readIndex?_unsigned {ds : List Char} (h : '+' ∉ ds) : Number.readIndex? ds =
    if ds ≠ [] ∧ ds.all Char.isDigit ∧ Number.digitsValue ds < Nat.pow 2 64 then
      some (Number.digitsValue ds)
    else none := by
  unfold Number.readIndex?
  dsimp only
  split
  · exact absurd List.mem_cons_self h
  · rfl

/-- The digits of a number below the limit of a word are an index. -/
theorem readIndex?_digits {n : Nat} (h : n < Nat.pow 2 64) :
    Number.readIndex? (Number.digits n) = some n := by
  have hdigits : ∀ c ∈ Number.digits n, c.isDigit = true := fun _ => Number.isDigit_of_mem_digits
  have hplus : '+' ∉ Number.digits n := fun hc => absurd (hdigits '+' hc) (by decide)
  rw [readIndex?_unsigned hplus, Number.digitsValue_digits,
    if_pos ⟨Number.digits_ne_nil n, List.all_eq_true.2 hdigits, h⟩]

/-- What begins with an `@` is no position. -/
theorem readIndex?_at (cs : List Char) : Number.readIndex? ('@' :: cs) = none := by
  have hdigits : ¬ (∀ c ∈ '@' :: cs, c.isDigit = true) := fun h =>
    absurd (h '@' List.mem_cons_self) (by decide)
  unfold Number.readIndex?
  dsimp only
  rw [if_neg]
  rintro ⟨-, h, -⟩
  exact hdigits (List.all_eq_true.1 h)

theorem unquote?_quoted {quote : Char} {value : List Char} (h : Quotable quote value) :
    unquote? (quote :: (value ++ [quote])) = some value := by
  rcases h.1 with rfl | rfl <;> exact dropEnding?_eq_some_iff.2 rfl

theorem Quotable.not_isBlank {quote : Char} {value : List Char} (h : Quotable quote value) :
    isBlank quote = false := by
  rcases h.1 with rfl | rfl <;> rfl

theorem tight_inner {quote : Char} {p : Predicate} (h : p.WellFormed quote) (htight : p.Tight) :
    Text.Tight (p.inner quote) := by
  have hat : Text.Tight ['@'] := tight_singleton rfl
  cases p with
  | always => exact tight_nil
  | position n =>
    exact tight_of_forall fun c hc => not_isBlank_of_isDigit (Number.isDigit_of_mem_digits hc)
  | hasAttribute name => exact hat.append htight
  | attributeIs name value =>
    have hequals : Text.Tight ['='] := tight_singleton rfl
    have hquoted : Text.Tight (quote :: (value.toList ++ [quote])) :=
      tight_between h.2.not_isBlank h.2.not_isBlank _
    exact hat.append (Text.Tight.append htight (hequals.append hquoted))

theorem readPredicate_inner {query : String} {quote : Char} {p : Predicate}
    (h : p.WellFormed quote) (htight : p.Tight) (hp : p ≠ .always) :
    readPredicate query (p.inner quote) = .ok p := by
  cases p with
  | always => exact absurd rfl hp
  | position n =>
    obtain ⟨hpos, hlt⟩ := h
    obtain ⟨m, rfl⟩ : ∃ m, n = m + 1 := ⟨n - 1, by omega⟩
    unfold readPredicate
    rw [Predicate.inner, readIndex?_digits hlt]
    rfl
  | hasAttribute name =>
    have hequals : '=' ∉ name.toList := fun hc => notMem_queryMarks h '=' hc (by decide)
    rw [Predicate.inner, readPredicate, readIndex?_at]
    dsimp only
    rw [breakOn?_of_notMem hequals]
    dsimp only
    rw [Text.Tight.trim htight, String.ofList_toList]
  | attributeIs name value =>
    obtain ⟨hname, hquotable⟩ := h
    have hequals : '=' ∉ name.toList := fun hc => notMem_queryMarks hname '=' hc (by decide)
    have hquoted : Text.Tight (quote :: (value.toList ++ [quote])) :=
      tight_between hquotable.not_isBlank hquotable.not_isBlank _
    rw [Predicate.inner, readPredicate, readIndex?_at]
    dsimp only
    -- the value may have further `=` in it, but the first one ends the name
    rw [breakOn?_append_mark hequals]
    dsimp only
    rw [hquoted.trim, unquote?_quoted hquotable]
    dsimp only
    rw [Text.Tight.trim htight, String.ofList_toList, String.ofList_toList]

theorem uncut_inner {quote : Char} {p : Predicate} (h : p.WellFormed quote) (depth : Nat) :
    Uncut depth (p.inner quote) := by
  have hat : Uncut depth ['@'] := uncut_plain (by simp [stepMarks]) depth
  have hname : ∀ {name : String}, isName name.toList = true → Uncut depth name.toList :=
    fun hname => uncut_plain (fun c hc => notMem_stepMarks (notMem_queryMarks hname c hc)) depth
  cases p with
  | always => exact uncut_nil depth
  | position n =>
    have hdigits : stepMarks.any Char.isDigit = false := by decide
    refine uncut_plain (fun c hc hmark => ?_) depth
    exact List.any_eq_false.1 hdigits c hmark (Number.isDigit_of_mem_digits hc)
  | hasAttribute name => exact hat.append (hname h)
  | attributeIs name value =>
    have hequals : Uncut depth ['='] := uncut_plain (by simp [stepMarks]) depth
    exact hat.append ((hname h.1).append (hequals.append (uncut_quoted h.2 depth)))

/-! ### Steps -/

theorem Step.WellFormed.uncut {quote : Char} {step : Step} (h : step.WellFormed quote) :
    Uncut 0 (step.body quote) := by
  refine (uncut_plain h.test.notMem_stepMarks 0).append ?_
  unfold Predicate.write
  split
  · exact uncut_nil 0
  · exact (uncut_inner h.predicate 1).bracketed

theorem readStep_body {query : String} {quote : Char} {step : Step} (h : step.WellFormed quote)
    (htight : step.Tight) : readStep query step.descendant (step.body quote) = .ok step := by
  obtain ⟨descendant, test, predicate⟩ := step
  obtain ⟨htest, hpredicate, hleaf⟩ := h
  have hbracket : '[' ∉ test.write := fun hc => htest.notMem_stepMarks '[' hc (by decide)
  have hstep : ((readTest query test.write).bind fun test =>
      if predicate ≠ .always ∧ !test.isElement then .error (.predicateOnLeaf query)
      else .ok ⟨descendant, test, predicate⟩) = .ok (⟨descendant, test, predicate⟩ : Step) := by
    have hnot : ¬(predicate ≠ .always ∧ (!test.isElement) = true) := by
      rintro ⟨hne, hnot⟩
      exact hne (hleaf (by simpa using hnot))
    rw [readTest_write htest htight.test]
    exact if_neg hnot
  unfold readStep Step.body Predicate.write
  by_cases hp : predicate = .always
  · rw [if_pos hp, List.append_nil, breakOn?_of_notMem hbracket]
    rw [hp] at hstep ⊢
    exact hstep
  · -- brackets in the value are behind the first one and before the last one
    have hend : dropEnding? [']'] (predicate.inner quote ++ [']']) = some (predicate.inner quote) :=
      dropEnding?_eq_some_iff.2 rfl
    rw [if_neg hp, breakOn?_append_mark hbracket]
    dsimp only
    rw [hend]
    dsimp only
    rw [(tight_inner hpredicate htight.predicate).trim,
      readPredicate_inner hpredicate htight.predicate hp]
    exact hstep

/-! ### Queries -/

variable {entry : Step × Char} {quoted : QuotedSteps}

theorem writeSteps_cons (entry : Step × Char) (quoted : QuotedSteps) :
    writeSteps (entry :: quoted) =
      entry.1.separator ++ (entry.1.body entry.2 ++ writeSteps quoted) := by
  rw [writeSteps, List.flatMap_cons, List.append_assoc]
  rfl

/-- A step begins with something else than a separator. -/
theorem Step.WellFormed.exists_body {quote : Char} {step : Step} (h : step.WellFormed quote) :
    ∃ c cs, step.body quote = c :: cs ∧ c ≠ '/' := by
  obtain ⟨c, cs, hcs⟩ := List.exists_cons_of_ne_nil h.test.ne_nil
  refine ⟨c, cs ++ step.predicate.write quote, by rw [Step.body, hcs]; rfl, ?_⟩
  rintro rfl
  exact h.test.notMem_stepMarks '/' (hcs ▸ List.mem_cons_self) (by decide)

theorem readSeparator_append (step : Step) {c : Char} (hc : c ≠ '/') (cs : List Char) :
    readSeparator (step.separator ++ c :: cs) = (some step.descendant, c :: cs) := by
  unfold Step.separator
  cases step.descendant with
  | true => rfl
  | false =>
    show readSeparator ('/' :: c :: cs) = _
    unfold readSeparator
    split
    · rename_i heq
      cases heq
      exact absurd rfl hc
    · rename_i heq
      cases heq
      rfl
    · rename_i hno
      exact absurd rfl (hno _)

/-- What comes after a step is nothing or the separator of the next one. -/
theorem head?_writeSteps (quoted : QuotedSteps) : ∀ d ∈ (writeSteps quoted).head?, d = '/' := by
  cases quoted with
  | nil => exact nofun
  | cons entry quoted =>
    intro d hd
    rw [writeSteps_cons] at hd
    unfold Step.separator at hd
    split at hd <;> exact (Option.some.inj hd).symm

theorem length_writeSteps_cons (entry : Step × Char) (quoted : QuotedSteps) :
    (writeSteps quoted).length < (writeSteps (entry :: quoted)).length := by
  have hseparator : 0 < entry.1.separator.length := by
    unfold Step.separator
    split <;> decide
  rw [writeSteps_cons, List.length_append, List.length_append]
  omega

/-- Steps that are written are read one after the other. -/
theorem readSteps_write {query : String} {fuel : Nat} {first : Bool}
    (h : ∀ entry ∈ quoted, entry.1.WellFormed entry.2) (htight : ∀ entry ∈ quoted, entry.1.Tight)
    (hfuel : (writeSteps quoted).length < fuel) :
    readSteps query fuel first (writeSteps quoted) = .ok (quoted.map Prod.fst) := by
  -- each step takes its separator at least, so the fuel outlasts the text
  induction quoted generalizing fuel first with
  | nil =>
    obtain ⟨fuel, rfl⟩ : ∃ n, fuel = n + 1 := ⟨fuel - 1, by omega⟩
    rfl
  | cons entry quoted ih =>
    obtain ⟨step, quote⟩ := entry
    obtain ⟨hstep, hsteps⟩ := List.forall_mem_cons.1 h
    obtain ⟨htightStep, htightSteps⟩ := List.forall_mem_cons.1 htight
    obtain ⟨fuel, rfl⟩ : ∃ n, fuel = n + 1 := ⟨fuel - 1, by omega⟩
    have hlength := length_writeSteps_cons (step, quote) quoted
    have hrest : readSteps query fuel false (writeSteps quoted) = .ok (quoted.map Prod.fst) :=
      ih hsteps htightSteps (by omega)
    obtain ⟨c, cs, hbody, hc⟩ := hstep.exists_body
    have hseparator := readSeparator_append step hc (cs ++ writeSteps quoted)
    have hbreak := hstep.uncut.breakStep (head?_writeSteps quoted)
    have hdescendant : decide (some step.descendant = some true) = step.descendant := by
      cases step.descendant <;> rfl
    have hread : readStep query step.descendant (step.body quote) = .ok step :=
      readStep_body hstep htightStep
    dsimp only at hbody hbreak
    have hne : step.separator ++ c :: (cs ++ writeSteps quoted) ≠ [] := by simp
    rw [writeSteps_cons, readSteps]
    dsimp only
    rw [hbody, List.cons_append, if_neg hne, hseparator]
    dsimp only
    rw [if_neg (by simp), if_neg (List.cons_ne_nil _ _), ← List.cons_append, ← hbody, hbreak,
      hdescendant]
    dsimp only
    rw [hread]
    show (readSteps query fuel false (writeSteps quoted)).bind _ = _
    rw [hrest]
    rfl

/-- The text of a query has no white space at its ends if its steps have none. -/
theorem tight_writeSteps (h : ∀ entry ∈ quoted, entry.1.Tight) :
    Text.Tight (writeSteps quoted) := by
  induction quoted with
  | nil => exact tight_nil
  | cons entry quoted ih =>
    obtain ⟨hentry, hothers⟩ := List.forall_mem_cons.1 h
    have hseparator : Text.Tight entry.1.separator := by
      unfold Step.separator
      split
      · exact tight_between rfl rfl []
      · exact tight_singleton rfl
    have hpredicate : Text.Tight (entry.1.predicate.write entry.2) := by
      unfold Predicate.write
      split
      · exact tight_nil
      · exact tight_between (by decide) (by decide) _
    rw [writeSteps_cons]
    exact hseparator.append ((hentry.test.append hpredicate).append (ih hothers))

/-- Steps without white space at the ends of their names are read back. -/
theorem readQuery_of_tight (h : quoted.WellFormed) (htight : ∀ entry ∈ quoted, entry.1.Tight) :
    readQuery (String.ofList (writeQuery quoted)) = .ok (quoted.map Prod.fst) := by
  unfold readQuery
  rw [String.toList_ofList]
  dsimp only
  cases quoted with
  | nil => rfl
  | cons entry quoted =>
    have hne : writeSteps (entry :: quoted) ≠ [] := by
      have hlength := length_writeSteps_cons entry quoted
      intro hnil
      rw [hnil] at hlength
      exact Nat.not_lt_zero _ hlength
    rw [writeQuery, if_neg (List.cons_ne_nil _ _), (tight_writeSteps htight).trim, if_neg hne,
      readSteps_write h.steps htight (Nat.lt_succ_self _)]
    exact if_pos (List.all_eq_true.2 h.leaf)

/-- **A query that is written reads back as its steps**, whatever the values hold besides their
quote, exactly if none of its names has white space at its ends, and that can only be the Ogham
space mark. -/
theorem readQuery_write (h : quoted.WellFormed) :
    (readQuery (String.ofList (writeQuery quoted)) = .ok (quoted.map Prod.fst) ↔
      ∀ step ∈ quoted.map Prod.fst, step.Tight) ∧
    ∀ step ∈ quoted.map Prod.fst, step.Tight ↔ '\u1680' ∉ step.ends := by
  -- all that is read has been trimmed, so a name with blanks at its ends cannot come back
  refine ⟨⟨tight_of_readQuery, fun htight => ?_⟩, fun step hstep => ?_⟩
  · exact readQuery_of_tight h fun entry hentry => htight entry.1 (List.mem_map_of_mem hentry)
  · obtain ⟨entry, hentry, rfl⟩ := List.mem_map.1 hstep
    exact Step.tight_iff (h.steps entry hentry)

/-- Steps whose values look like pieces of a query themselves. -/
def crowded : QuotedSteps :=
  [(⟨false, .element "r", .position 18446744073709551615⟩, '"'),
   (⟨true, .element "*", .attributeIs "id" "a/b[@c = 'd']]="⟩, '"'),
   (⟨false, .element "x", .attributeIs "y" "]\"/["⟩, '\''),
   (⟨true, .attr "href", .always⟩, '"')]

theorem readQuery_write_crowded : crowded.WellFormed ∧ (∀ step ∈ crowded.map Prod.fst, step.Tight) ∧
    readQuery "/r[18446744073709551615]//*[@id=\"a/b[@c = 'd']]=\"]/x[@y=']\"/[']//@href" =
      .ok (crowded.map Prod.fst) := by
  have hwellFormed : crowded.WellFormed := by decide +kernel
  have htight : ∀ step ∈ crowded.map Prod.fst, step.Tight := by decide +kernel
  exact ⟨hwellFormed, htight, (readQuery_write hwellFormed).1.2 htight⟩

/-- The Ogham space mark is a character of names and white space, and a test that ends with it is
read without it. -/
theorem readQuery_write_spaced :
    QuotedSteps.WellFormed [(⟨false, .element "a\u1680", .always⟩, '"')] ∧
      writeQuery [(⟨false, .element "a\u1680", .always⟩, '"')] = "/a\u1680".toList ∧
      readQuery "/a\u1680" = .ok [⟨false, .element "a", .always⟩] := by
  refine ⟨by decide +kernel, rfl, rfl⟩

end Island

end TagTemplate
