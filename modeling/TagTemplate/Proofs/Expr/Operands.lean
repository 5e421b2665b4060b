import TagTemplate.Proofs.Expr.Scanning

/-!
# The scanner on operands

`Takes` says that a text is read as an operand with a given value, up to what ends it. It holds for
strings, numerals, keywords and paths, and so for every spelling of an operand (`takes_operand`).
-/

namespace TagTemplate.Expr

open TagTemplate.Text

variable {env : Env} {held : Stacks}

/-! ## How paths are written -/

namespace Path

variable {p : Path} {step : String}

theorem slashed_append (steps : List String) (step : String) :
    slashed (steps ++ [step]) = slashed steps ++ '/' :: step.toList := by
  simp [slashed]

theorem begun_followed (hp : p.Begun) (hstep : IsStep step.toList) : (p.followed step).Begun := by
  refine ⟨fun s hs => ?_, fun hroot => ?_⟩
  · rcases List.mem_append.1 hs with hs | hs
    · exact hp.steps s hs
    · rw [List.mem_singleton.1 hs]
      exact hstep
  · obtain ⟨first, rest, hsteps, hfirst⟩ := hp.named hroot
    exact ⟨first, rest ++ [step], by rw [followed, hsteps]; rfl, hfirst⟩

theorem lead_followed (hp : p.Begun) (step : String) :
    (p.followed step).lead = p.lead ++ '/' :: step.toList := by
  obtain ⟨root, steps⟩ := p
  cases root with
  | absolute => exact slashed_append steps step
  | current => exact congrArg _ (slashed_append steps step)
  | parent => exact congrArg (fun cs => '.' :: '.' :: cs) (slashed_append steps step)
  | _ =>
    obtain ⟨first, rest, rfl, -⟩ := hp.named rfl
    show first.toList ++ slashed (rest ++ [step]) = first.toList ++ slashed rest ++ _
    rw [slashed_append, List.append_assoc]

theorem spelling_followed (p : Path) (step : String) :
    (p.followed step).spelling = (p.followed step).lead := by
  obtain ⟨root, steps⟩ := p
  cases root with
  | absolute => cases steps <;> rfl
  | current => rfl
  | parent => rfl
  | _ => cases steps <;> rfl

theorem writable_followed (hp : p.Begun) (hstep : IsStep step.toList) :
    (p.followed step).Writable := by
  obtain ⟨hsteps, hnamed⟩ := begun_followed hp hstep
  refine ⟨hsteps, fun hroot => ?_⟩
  obtain ⟨first, rest, heq, hfirst⟩ := hp.named hroot
  have hmore : (p.followed step).steps = first :: (rest ++ [step]) := by
    rw [followed, heq]
    rfl
  exact ⟨first, rest ++ [step], hmore, hfirst, fun hnil => by simp at hnil⟩

/-- A path that can be written ends in a step that follows on something, or is a root or a name. -/
theorem Writable.eq_followed (hp : p.Writable) :
    (∃ (q : Path) (step : String), p = q.followed step ∧ q.Begun ∧ IsStep step.toList) ∨
      (∃ root, p = ⟨root, []⟩ ∧ root ≠ .scoped) ∨ ∃ name, p = ⟨.scoped, [name]⟩ := by
  obtain ⟨root, steps⟩ := p
  obtain ⟨hsteps, hnamed⟩ := hp
  obtain rfl | ⟨before, step, rfl⟩ : steps = [] ∨ ∃ before step, steps = before ++ [step] := by
    simpa only [List.concat_eq_append] using List.eq_nil_or_concat steps
  · refine .inr (.inl ⟨root, rfl, fun hroot => ?_⟩)
    obtain ⟨first, rest, hcons, -⟩ := hnamed hroot
    cases hcons
  · obtain ⟨hbefore, hstep⟩ := List.forall_mem_append.1 hsteps
    -- a name that stands alone has nothing in front of its last step
    by_cases hsingle : root = .scoped ∧ before = []
    · obtain ⟨rfl, rfl⟩ := hsingle
      exact .inr (.inr ⟨step, rfl⟩)
    · refine .inl ⟨⟨root, before⟩, step, rfl, ⟨hbefore, fun hroot => ?_⟩, hstep step (by simp)⟩
      obtain ⟨first, rest, hcons, hfirst, -⟩ := hnamed hroot
      cases before with
      | nil => exact absurd ⟨hroot, rfl⟩ hsingle
      | cons s others =>
        cases hcons
        exact ⟨first, others, rfl, hfirst⟩

theorem slashed_slash (steps : List String) :
    slashed steps ++ ['/'] = '/' :: steps.flatMap fun s => s.toList ++ ['/'] := by
  induction steps with
  | nil => rfl
  | cons step steps ih =>
    show ('/' :: step.toList ++ slashed steps) ++ ['/'] = _
    rw [List.append_assoc, ih]
    simp

end Path

namespace Scanner

/-! ## Pieces of operands -/

theorem scans_name {cs : List Char} (h : ∀ c ∈ cs, isNameChar c = true) (buffer : List Char)
    (path : Option Path) :
    Scans env ⟨.name, buffer, path, held⟩ cs ⟨.name, buffer ++ cs, path, held⟩ := by
  refine Scans.each (fun buffer => ⟨.name, buffer, path, held⟩) (fun buffer c hc _ => ?_) buffer
  unfold read
  simp [h c hc, Except.map, keep]

theorem scans_digits {cs : List Char} (h : ∀ c ∈ cs, c.isDigit = true) (buffer : List Char)
    (seenPoint : Bool) :
    Scans env ⟨.numeral seenPoint, buffer, none, held⟩ cs
      ⟨.numeral seenPoint, buffer ++ cs, none, held⟩ := by
  refine Scans.each (fun buffer => ⟨.numeral seenPoint, buffer, none, held⟩)
    (fun buffer c hc _ => ?_) buffer
  unfold read
  simp [h c hc, Except.map, keep]

/-- A name at the start of a token. -/
theorem scans_firstName {name : List Char} (h : IsName name) :
    Scans env (between held) name ⟨.name, name, none, held⟩ := by
  obtain ⟨c, cs, rfl, hc, hcs⟩ := h
  refine Scans.cons (fun position => ?_) (scans_name hcs [c] none)
  rw [read_idle env rfl, readIdle_of_notMem (notMem_specials_of_class (by decide) hc)]
  simp [isDigit_of_isNameStart hc, hc, Except.map, keep, goto, between]

/-- A digit between tokens and the digits after it. -/
theorem scans_firstDigits {c : Char} {cs : List Char} (hc : c.isDigit = true)
    (hcs : ∀ d ∈ cs, d.isDigit = true) :
    Scans env (between held) (c :: cs) ⟨.numeral false, c :: cs, none, held⟩ := by
  refine Scans.cons (fun position => ?_) (scans_digits hcs [c] false)
  rw [read_idle env rfl, readIdle_of_notMem (notMem_specials_of_class (by decide) hc), if_pos hc]
  rfl

/-- A step after a slash. -/
theorem scans_step {step : String} (h : IsStep step.toList) (path : Path) :
    Scans env ⟨.slash, [], some path, held⟩ step.toList ⟨.name, step.toList, some path, held⟩ := by
  obtain ⟨hne, hall⟩ := h
  obtain ⟨c, cs, heq⟩ := List.exists_cons_of_ne_nil hne
  rw [heq] at hall ⊢
  refine Scans.cons (fun position => ?_) (scans_name (fun d hd => hall d (by simp [hd])) [c] _)
  unfold read
  simp [hall c (by simp), Except.map, keep, goto]

/-- The slash after a step of a path. -/
theorem scans_slash (step : String) (path : Path) :
    Scans env ⟨.name, step.toList, some path, held⟩ ['/']
      ⟨.slash, [], some { path with steps := path.steps ++ [step] }, held⟩ := by
  refine Scans.char fun position => ?_
  unfold read
  simp [show isNameChar '/' = false by decide, addStep, Except.map, goto]

/-- A name with a parenthesis behind it is a call. -/
theorem read_call (env : Env) (held : Stacks) (name : String) (position : Nat) :
    read env ⟨.name, name.toList, none, held⟩ '(' position =
      ((held.openCall name).map between).map fun s => (true, s) := by
  unfold read
  simp [show isNameChar '(' = false by decide]
  rfl

/-- The scanner between tokens after an operand. -/
def pushed (held : Stacks) (v : Value) : Scanner :=
  between ⟨held.operators, v :: held.operands, false⟩

theorem pushOperand_of_expecting (h : held.expecting = true) (v : Value) :
    held.pushOperand v = .ok ⟨held.operators, v :: held.operands, false⟩ := by
  rw [Stacks.pushOperand, if_pos h]

theorem finishPath_eq (h : held.expecting = true) (mode : Mode) (path : Path) :
    finishPath env ⟨mode, [], some path, held⟩ =
      .ok (pushed held (path.resolve env.scope)) := by
  rw [finishPath]
  dsimp only
  rw [pushOperand_of_expecting h]
  rfl

theorem finishToken_step (h : held.expecting = true) (p : Path) (step : List Char) :
    finishToken env ⟨.name, step, some p, held⟩ =
      .ok (pushed held ((p.followed (String.ofList step)).resolve env.scope)) := by
  simp [finishToken, finishName, addStep, Except.bind, finishPath_eq h, Path.followed]

/-! ## What ends an operand -/

/-- What may follow an operand: nothing, white space, an operator, a closing parenthesis or a comma.
A slash may follow only where it is not taken as a part of the operand. -/
def Delimited (takesSlash : Bool) : List Char → Prop
  | [] => True
  | c :: _ => isBlank c = true ∨ c ∈ ['+', '-', '*', ')', ','] ∨ takesSlash = false ∧ c = '/'

theorem Delimited.head {takesSlash : Bool} {c : Char} {cs : List Char}
    (h : Delimited takesSlash (c :: cs)) :
    isNameChar c = false ∧ c ≠ '(' ∧ c ≠ '.' ∧ (takesSlash = true → c ≠ '/') := by
  rcases h with hblank | hmem | ⟨hslash, rfl⟩
  · exact ⟨isNameChar_of_isBlank hblank, ne_of_isBlank hblank rfl, ne_of_isBlank hblank rfl,
      fun _ => ne_of_isBlank hblank rfl⟩
  · simp only [List.mem_cons, List.not_mem_nil, or_false] at hmem
    have hall : isNameChar c = false ∧ c ≠ '(' ∧ c ≠ '.' ∧ c ≠ '/' := by
      rcases hmem with rfl | rfl | rfl | rfl | rfl <;> decide
    exact ⟨hall.1, hall.2.1, hall.2.2.1, fun _ => hall.2.2.2⟩
  · exact ⟨by decide, by decide, by decide, fun htakes => by simp [hslash] at htakes⟩

theorem endsAt_numeral {takesSlash : Bool} {rest : List Char} (h : Delimited takesSlash rest)
    (seenPoint : Bool) : EndsAt (.numeral seenPoint) rest := by
  cases rest with
  | nil => trivial
  | cons c cs =>
    obtain ⟨hname, -, hdot, -⟩ := h.head
    refine ⟨Bool.eq_false_iff.2 fun hd => ?_, hdot, Bool.eq_false_iff.2 fun hs => ?_⟩
    · simp [isNameChar_of_isDigit hd] at hname
    · simp [isNameChar_of_isNameStart hs] at hname

theorem endsAt_path {rest : List Char} (h : Delimited true rest) {mode : Mode}
    (hmode : mode = .name ∨ mode = .dot ∨ mode = .dots ∨ mode = .slash) : EndsAt mode rest := by
  cases rest with
  | nil => rcases hmode with rfl | rfl | rfl | rfl <;> trivial
  | cons c cs =>
    obtain ⟨hname, hopen, hdot, hslash⟩ := h.head
    rcases hmode with rfl | rfl | rfl | rfl
    · exact ⟨hname, hopen, hslash rfl⟩
    · refine ⟨hdot, hslash rfl, Bool.eq_false_iff.2 fun hd => ?_⟩
      simp [isNameChar_of_isDigit hd] at hname
    · exact hslash rfl
    · exact hname

/-! ## Operands -/

theorem scans_quotes {quote : Char} {text body : List Char} (h : Quotes quote text body)
    (buffer : List Char) :
    Scans env ⟨.quoted quote false, buffer, none, held⟩ body
      ⟨.quoted quote false, buffer ++ text, none, held⟩ := by
  induction h generalizing buffer with
  | nil =>
    rw [List.append_nil]
    exact Scans.refl _
  | @plain c cs body hquote hslash _ ih =>
    have hbody := ih (buffer ++ [c])
    rw [List.append_assoc] at hbody
    refine Scans.cons (fun position => ?_) hbody
    unfold read
    simp [readQuoted, hslash, hquote, Except.map, keep]
  | @escaped c cs body _ ih =>
    have hbody := ih (buffer ++ [c])
    rw [List.append_assoc] at hbody
    have hbackslash : Scans env ⟨.quoted quote false, buffer, none, held⟩ ['\\']
        ⟨.quoted quote true, buffer, none, held⟩ := by
      refine Scans.char fun position => ?_
      unfold read
      simp [readQuoted, Except.map, goto]
    refine hbackslash.trans (Scans.cons (fun position => ?_) hbody)
    unfold read
    simp [readQuoted, Except.map, keep, goto]

theorem keyword?_text (k : Keyword) : keyword? k.text = some k.value := by
  cases k <;> simp [keyword?, Keyword.text, Keyword.value]

theorem keyword?_eq_none {name : String} (h : ∀ k : Keyword, k.text ≠ name) :
    keyword? name = none := by
  rw [keyword?, if_neg fun heq => h .true heq.symm, if_neg fun heq => h .false heq.symm,
    if_neg fun heq => h .null heq.symm]

theorem isName_keyword (k : Keyword) : IsName k.text.toList := by
  cases k
  · exact ⟨'t', ['r', 'u', 'e'], rfl, rfl, List.all_eq_true.1 rfl⟩
  · exact ⟨'f', ['a', 'l', 's', 'e'], rfl, rfl, List.all_eq_true.1 rfl⟩
  · exact ⟨'n', ['u', 'l', 'l'], rfl, rfl, List.all_eq_true.1 rfl⟩

/-- The text is read as an operand with this value, up to what ends it. -/
def Takes (env : Env) (held : Stacks) (takesSlash : Bool) (v : Value) (text : List Char) : Prop :=
  ∃ pending, Scans env (between held) text pending ∧ pending.finishToken env = .ok (pushed held v) ∧
    ∀ rest, Delimited takesSlash rest → EndsAt pending.mode rest

theorem takes_string (h : held.expecting = true) {quote : Char} {text body : List Char}
    (hquote : quote = '\'' ∨ quote = '"') (hbody : Quotes quote text body) :
    Takes env held false (.string (String.ofList text)) (quote :: (body ++ [quote])) := by
  -- a string is pushed by its closing quote, not by what follows
  have hslash : quote ≠ '\\' := by rcases hquote with rfl | rfl <;> decide
  refine ⟨pushed held (.string (String.ofList text)), ?_, finishToken_idle rfl, fun _ _ => trivial⟩
  have hopen : Scans env (between held) [quote] ⟨.quoted quote false, [], none, held⟩ := by
    refine Scans.char fun position => ?_
    rw [read_idle env rfl, readIdle, if_pos hquote]
    rfl
  refine hopen.trans ((scans_quotes hbody []).trans (Scans.char fun position => ?_))
  unfold read
  simp [readQuoted, hslash, pushOperand_of_expecting h, Except.map, idle, pushed, between]

theorem takes_whole (h : held.expecting = true) {digits : List Char} (hne : digits ≠ [])
    (hall : ∀ c ∈ digits, c.isDigit = true) :
    Takes env held false (.number (Number.numeralValue digits [])) digits := by
  obtain ⟨c, cs, rfl⟩ := List.exists_cons_of_ne_nil hne
  refine ⟨_, scans_firstDigits (hall c (by simp)) fun d hd => hall d (by simp [hd]), ?_,
    fun _ hrest => endsAt_numeral hrest _⟩
  simp only [finishToken, finishNumeral, Number.read?_whole hne hall, pushOperand_of_expecting h]
  rfl

theorem scans_point (h : held.expecting = true) :
    Scans env (between held) ['.'] ⟨.dot, [], none, held⟩ := by
  refine Scans.char fun position => ?_
  rw [read_idle env rfl, readIdle]
  simp [between, h, Except.map, goto]

/-- The point in a numeral. -/
theorem scans_decimalPoint (digits : List Char) :
    Scans env ⟨.numeral false, digits, none, held⟩ ['.']
      ⟨.numeral true, digits ++ ['.'], none, held⟩ := by
  refine Scans.char fun position => ?_
  unfold read
  simp [Except.map, keep, goto]

/-- A digit behind a point that no digit comes before. The scanner puts a zero in front. -/
theorem scans_firstDecimal {d : Char} (hd : d.isDigit = true) :
    Scans env ⟨.dot, [], none, held⟩ [d] ⟨.numeral true, ['0', '.', d], none, held⟩ := by
  have hslash : d ≠ '/' := by
    rintro rfl
    exact absurd hd (by decide)
  have hdot : d ≠ '.' := by
    rintro rfl
    exact absurd hd (by decide)
  refine Scans.char fun position => ?_
  unfold read
  simp [hdot, hslash, hd, Except.map, keep, goto]

/-- A zero in front of the point makes no difference. -/
theorem read?_bareDecimal {fraction : List Char} (h : ∀ d ∈ fraction, d.isDigit = true) :
    Number.read? (['0'] ++ '.' :: fraction) = some (Number.numeralValue [] fraction) := by
  have hzero : ∀ d ∈ ['0'], d.isDigit = true := List.all_eq_true.1 rfl
  rw [Number.read?_decimal (List.cons_ne_nil '0' []) hzero h, Number.numeralValue_zero_cons]

theorem takes_decimal (h : held.expecting = true) {whole fraction : List Char}
    (hne : whole ≠ [] ∨ fraction ≠ []) (hwhole : ∀ c ∈ whole, c.isDigit = true)
    (hfraction : ∀ c ∈ fraction, c.isDigit = true) :
    Takes env held false (.number (Number.numeralValue whole fraction))
      (whole ++ '.' :: fraction) := by
  cases whole with
  | cons c cs =>
    have hread := Number.read?_decimal (List.cons_ne_nil c cs) hwhole hfraction
    have hdigits : Scans env (between held) ((c :: cs) ++ ('.' :: fraction))
        ⟨.numeral true, (c :: cs ++ ['.']) ++ fraction, none, held⟩ :=
      (scans_firstDigits (hwhole c (by simp)) fun d hd => hwhole d (by simp [hd])).trans
        ((scans_decimalPoint _).trans (scans_digits hfraction _ true))
    refine ⟨_, hdigits, ?_, fun _ hrest => endsAt_numeral hrest _⟩
    rw [← List.append_cons]
    show finishNumeral ⟨.numeral true, (c :: cs) ++ '.' :: fraction, none, held⟩ = _
    rw [finishNumeral, hread]
    show (held.pushOperand _).map _ = _
    rw [pushOperand_of_expecting h]
    rfl
  | nil =>
    -- a point without digits in front of it is read as if there were a zero
    obtain ⟨d, ds, rfl⟩ := List.exists_cons_of_ne_nil (hne.resolve_left fun hnil => hnil rfl)
    have hd : d.isDigit = true := hfraction d (by simp)
    have hdigits : Scans env (between held) ('.' :: d :: ds)
        ⟨.numeral true, ['0', '.', d] ++ ds, none, held⟩ :=
      (scans_point h).trans
        ((scans_firstDecimal hd).trans
          (scans_digits (fun e he => hfraction e (by simp [he])) _ true))
    refine ⟨_, hdigits, ?_, fun _ hrest => endsAt_numeral hrest _⟩
    show finishNumeral ⟨.numeral true, ['0'] ++ '.' :: d :: ds, none, held⟩ = _
    rw [finishNumeral, read?_bareDecimal hfraction]
    show (held.pushOperand _).map _ = _
    rw [pushOperand_of_expecting h]
    rfl

theorem takes_keyword (h : held.expecting = true) (k : Keyword) :
    Takes env held true k.value k.text.toList := by
  refine ⟨_, scans_firstName (isName_keyword k), ?_, fun _ hrest => endsAt_path hrest (.inl rfl)⟩
  simp only [finishToken, finishName, Option.isNone_none, if_true, String.ofList_toList,
    keyword?_text, pushOperand_of_expecting h]
  rfl

/-! ## Paths -/

/-- Steps behind a slash, each with a slash behind it. -/
theorem scans_steps {steps : List String} (hsteps : ∀ s ∈ steps, IsStep s.toList) (p : Path) :
    Scans env ⟨.slash, [], some p, held⟩ (steps.flatMap fun s => s.toList ++ ['/'])
      ⟨.slash, [], some { p with steps := p.steps ++ steps }, held⟩ := by
  induction steps generalizing p with
  | nil =>
    rw [List.append_nil]
    exact Scans.refl _
  | cons step steps ih =>
    obtain ⟨hstep, hothers⟩ := List.forall_mem_cons.1 hsteps
    have hmore := ih hothers (p.followed step)
    rw [Path.followed, List.append_assoc] at hmore
    exact ((scans_step hstep p).trans (scans_slash step p)).trans hmore

theorem scans_absolute (h : held.expecting = true) :
    Scans env (between held) ['/'] ⟨.slash, [], some ⟨.absolute, []⟩, held⟩ := by
  refine Scans.char fun position => ?_
  rw [read_idle env rfl, readIdle]
  simp [between, h, beginPath, Except.map, goto]

theorem scans_secondPoint :
    Scans env ⟨.dot, [], none, held⟩ ['.'] ⟨.dots, [], none, held⟩ := by
  refine Scans.char fun position => ?_
  unfold read
  simp [Except.map, goto]

theorem scans_dots (h : held.expecting = true) :
    Scans env (between held) ['.', '.'] ⟨.dots, [], none, held⟩ :=
  (scans_point h).trans scans_secondPoint

/-- A slash behind a point. -/
theorem scans_currentSlash (h : held.expecting = true) :
    Scans env ⟨.dot, [], none, held⟩ ['/'] ⟨.slash, [], some ⟨.current, []⟩, held⟩ := by
  refine Scans.char fun position => ?_
  unfold read
  simp [beginPath, h, Except.map, goto]

/-- A slash behind two points. -/
theorem scans_parentSlash (h : held.expecting = true) :
    Scans env ⟨.dots, [], none, held⟩ ['/'] ⟨.slash, [], some ⟨.parent, []⟩, held⟩ := by
  refine Scans.char fun position => ?_
  unfold read
  simp [beginPath, h, Except.map, goto]

/-- A slash behind the first name of a path. -/
theorem scans_nameSlash (h : held.expecting = true) (name : String) :
    Scans env ⟨.name, name.toList, none, held⟩ ['/']
      ⟨.slash, [], some ⟨.scoped, [name]⟩, held⟩ := by
  refine Scans.char fun position => ?_
  unfold read
  simp [show isNameChar '/' = false by decide, addStep, h, Except.map, goto]

/-- **A path with a slash behind it, to which a step could be added.** -/
theorem scans_lead (h : held.expecting = true) {p : Path} (hp : p.Begun) :
    Scans env (between held) (p.lead ++ ['/']) ⟨.slash, [], some p, held⟩ := by
  obtain ⟨root, steps⟩ := p
  obtain ⟨hsteps, hnamed⟩ := hp
  cases root with
  | absolute =>
    show Scans env _ (slashed steps ++ ['/']) _
    rw [Path.slashed_slash]
    exact (scans_absolute h).trans (scans_steps hsteps ⟨.absolute, []⟩)
  | current =>
    show Scans env _ ('.' :: (slashed steps ++ ['/'])) _
    rw [Path.slashed_slash]
    exact (scans_point h).trans
      ((scans_currentSlash h).trans (scans_steps hsteps ⟨.current, []⟩))
  | parent =>
    show Scans env _ (['.', '.'] ++ (slashed steps ++ ['/'])) _
    rw [Path.slashed_slash]
    exact (scans_dots h).trans ((scans_parentSlash h).trans (scans_steps hsteps ⟨.parent, []⟩))
  | _ =>
    obtain ⟨first, rest, rfl, hfirst⟩ := hnamed rfl
    have hrest : ∀ s ∈ rest, IsStep s.toList := fun s hs => hsteps s (List.mem_cons_of_mem _ hs)
    show Scans env _ ((first.toList ++ slashed rest) ++ ['/']) _
    rw [List.append_assoc, Path.slashed_slash]
    exact (scans_firstName hfirst).trans
      ((scans_nameSlash h first).trans (scans_steps hrest ⟨.scoped, [first]⟩))

theorem finishRoot_eq (h : held.expecting = true) (mode : Mode) (root : Root) :
    finishRoot env ⟨mode, [], none, held⟩ root =
      .ok (pushed held (Path.resolve env.scope ⟨root, []⟩)) := by
  rw [finishRoot, beginPath, if_pos h]
  exact finishPath_eq h mode ⟨root, []⟩

/-- A slash behind a path changes nothing of the path. -/
theorem takes_slash (h : held.expecting = true) {p : Path} (hp : p.Begun) :
    Takes env held false (p.resolve env.scope) (p.lead ++ ['/']) := by
  refine ⟨_, scans_lead h hp, finishPath_eq h .slash p, fun rest hrest => ?_⟩
  cases rest with
  | nil => trivial
  | cons c cs => exact hrest.head.1

theorem takes_followed (h : held.expecting = true) {p : Path} (hp : p.Begun) {step : String}
    (hstep : IsStep step.toList) :
    Takes env held true ((p.followed step).resolve env.scope) (p.followed step).spelling := by
  refine ⟨⟨.name, step.toList, some p, held⟩, ?_, ?_,
    fun _ hrest => endsAt_path hrest (.inl rfl)⟩
  · rw [Path.spelling_followed, Path.lead_followed hp, List.append_cons]
    exact (scans_lead h hp).trans (scans_step hstep p)
  · rw [finishToken_step h, String.ofList_toList]

/-- A single step is read as a name, which must not be a keyword. -/
theorem takes_named (h : held.expecting = true) {name : String} (hname : IsName name.toList)
    (hkeyword : ∀ k : Keyword, k.text ≠ name) :
    Takes env held true (Path.resolve env.scope ⟨.scoped, [name]⟩) name.toList := by
  refine ⟨_, scans_firstName hname, ?_, fun _ hrest => endsAt_path hrest (.inl rfl)⟩
  simp only [finishToken, finishName, Option.isNone_none, if_true, String.ofList_toList,
    keyword?_eq_none hkeyword, addStep, if_pos h, Except.bind]
  exact finishPath_eq h .idle ⟨.scoped, [name]⟩

theorem takes_path (h : held.expecting = true) {p : Path} (hp : p.Writable) :
    Takes env held true (p.resolve env.scope) p.spelling := by
  rcases hp.eq_followed with ⟨q, step, rfl, hq, hstep⟩ | ⟨root, rfl, hroot⟩ | ⟨name, rfl, hname⟩
  · exact takes_followed h hq hstep
  · cases root with
    | absolute =>
      exact ⟨_, scans_absolute h, finishPath_eq h .slash ⟨.absolute, []⟩,
        fun _ hrest => endsAt_path hrest (by simp)⟩
    | current =>
      exact ⟨_, scans_point h, finishRoot_eq h .dot .current,
        fun _ hrest => endsAt_path hrest (by simp)⟩
    | parent =>
      exact ⟨_, scans_dots h, finishRoot_eq h .dots .parent,
        fun _ hrest => endsAt_path hrest (by simp)⟩
    | _ => exact absurd rfl hroot
  · obtain ⟨first, rest, heq, hfirst, hkeyword⟩ := hp.named rfl
    cases heq
    have htext : Path.spelling ⟨.scoped, [name]⟩ = name.toList := List.append_nil _
    rw [htext]
    exact takes_named h hfirst (hkeyword rfl)

theorem takes_operand (env : Env) (h : held.expecting = true) {o : Operand} {text : List Char}
    (ho : o.Spelled text) :
    Takes env held (Token.operand o).takesSlash (o.value env.scope) text := by
  cases ho with
  | string hquote hbody => exact takes_string h hquote hbody
  | whole hne hall => exact takes_whole h hne hall
  | decimal hne hwhole hfraction => exact takes_decimal h hne hwhole hfraction
  | keyword k => exact takes_keyword h k
  | path hp => exact takes_path h hp

end Scanner

end TagTemplate.Expr
