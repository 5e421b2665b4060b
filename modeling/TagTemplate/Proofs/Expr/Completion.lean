import TagTemplate.Proofs.Expr.Meaning

/-!
# What an expression with a value starts with

Backwards from the value of an expression: in each mode the scanner comes to the end of the token
that it is in, and this token is one that may be written so.

- `Completes`: the token that the scanner is in comes to its end, and what follows has a value;
- `completes_quoted`, `completes_digits`, `completes_step`, `completes_name`, `completes_dot`: the
  modes of the scanner;
- `completes_special`: the characters with a meaning of their own;
- `completes_start`: **white space or a token**.
-/

namespace TagTemplate.Expr

open TagTemplate.Text

theorem IsName.append {name : List Char} (h : IsName name) {c : Char} (hc : isNameChar c = true) :
    IsName (name ++ [c]) := by
  obtain ⟨first, others, rfl, hfirst, hothers⟩ := h
  refine ⟨first, others ++ [c], rfl, hfirst, fun d hd => ?_⟩
  rcases List.mem_append.1 hd with hd | hd
  · exact hothers d hd
  · rw [List.mem_singleton.1 hd]
    exact hc

theorem IsName.isStep {name : List Char} (h : IsName name) : IsStep name := by
  obtain ⟨first, others, rfl, hfirst, hothers⟩ := h
  exact ⟨List.cons_ne_nil _ _,
    List.forall_mem_cons.2 ⟨Scanner.isNameChar_of_isNameStart hfirst, hothers⟩⟩

theorem IsStep.append {step : List Char} (h : IsStep step) {c : Char} (hc : isNameChar c = true) :
    IsStep (step ++ [c]) :=
  ⟨by simp, List.forall_mem_append.2 ⟨h.2, List.forall_mem_singleton.2 hc⟩⟩

theorem Quotes.append {quote : Char} {cs ds body more : List Char} (h : Quotes quote cs body)
    (h' : Quotes quote ds more) : Quotes quote (cs ++ ds) (body ++ more) := by
  induction h with
  | nil => exact h'
  | plain hquote hslash _ ih => exact .plain hquote hslash ih
  | escaped _ ih => exact .escaped ih

/-! ## The end of a token -/

namespace Scanner

variable {env : Env} {held : Stacks} {v : Value}

/-- The token whose first characters are `text` comes to its end in `rest`, the stacks take it in,
and what follows has a value. -/
def Completes (env : Env) (held : Stacks) (v : Value) (text rest : List Char) : Prop :=
  ∃ (t : Token) (takesSlash : Bool) (tail rest' : List Char) (held' : Stacks) (position : Nat),
    rest = tail ++ rest' ∧ t.Accepted takesSlash (text ++ tail) ∧ t.Fits held.expecting ∧
      (takesSlash = true → rest'.head? ≠ some '/') ∧ held.feed env t = .ok held' ∧
      run env (between held') position rest' = .ok v

theorem Completes.cons {c : Char} {text rest : List Char}
    (h : Completes env held v (text ++ [c]) rest) : Completes env held v text (c :: rest) := by
  obtain ⟨t, takesSlash, tail, rest', held', position, rfl, haccepted, hothers⟩ := h
  rw [List.append_assoc] at haccepted
  exact ⟨t, takesSlash, c :: tail, rest', held', position, rfl, haccepted, hothers⟩

/-- A character is taken in, and from there on the token comes to its end. -/
theorem completes_scanned {s s' : Scanner} {c : Char} {text rest : List Char} {position : Nat}
    (hscans : Scans env s [c] s') (hrun : run env s position (c :: rest) = .ok v)
    (h : run env s' (position + 1) rest = .ok v → Completes env held v (text ++ [c]) rest) :
    Completes env held v text (c :: rest) := by
  have hrest : run env s position (c :: rest) = run env s' (position + 1) rest :=
    hscans position rest
  exact (h (hrest.symm.trans hrun)).cons

/-- The token is at its end. -/
theorem completes_here {t : Token} {takesSlash : Bool} {text rest : List Char} {held' : Stacks}
    {position : Nat} (haccepted : t.Accepted takesSlash text) (hfits : t.Fits held.expecting)
    (hslash : takesSlash = true → rest.head? ≠ some '/') (hfeed : held.feed env t = .ok held')
    (hrun : run env (between held') position rest = .ok v) : Completes env held v text rest :=
  ⟨t, takesSlash, [], rest, held', position, rfl, by rw [List.append_nil]; exact haccepted, hfits,
    hslash, hfeed, hrun⟩

/-- An operand that is pushed is at its end. -/
theorem completes_operand {o : Operand} {takesSlash : Bool} {text rest : List Char} (position : Nat)
    (haccepted : (Token.operand o).Accepted takesSlash text)
    (hslash : takesSlash = true → rest.head? ≠ some '/')
    (hrun : ((held.pushOperand (o.value env.scope)).map between).bind
      (fun s => run env s position rest) = .ok v) : Completes env held v text rest := by
  obtain ⟨s, hpushed, hrest⟩ := bind_eq_ok hrun
  obtain ⟨held', hpush, rfl⟩ := map_eq_ok hpushed
  have hexpecting : held.expecting = true := by
    rw [Stacks.pushOperand] at hpush
    split at hpush
    · assumption
    · cases hpush
  exact completes_here haccepted hexpecting hslash hpush hrest

/-! ## Strings -/

theorem completes_quoted {quote : Char} (hquote : quote = '\'' ∨ quote = '"') (rest : List Char) :
    ∀ {cs body : List Char} (position : Nat), Quotes quote cs body →
      (run env ⟨.quoted quote false, cs, none, held⟩ position rest = .ok v →
        Completes env held v (quote :: body) rest) ∧
      (run env ⟨.quoted quote true, cs, none, held⟩ position rest = .ok v →
        Completes env held v (quote :: (body ++ ['\\'])) rest) := by
  -- a backslash leads from the one state to the other, so both are followed at once
  induction rest with
  | nil =>
    intro cs body position _
    constructor <;> intro hrun <;> cases hrun
  | cons c rest ih =>
    intro cs body position hquotes
    have hread : ∀ escaped, read env ⟨.quoted quote escaped, cs, none, held⟩ c position =
        (readQuoted ⟨.quoted quote escaped, cs, none, held⟩ quote escaped c).map
          fun s => (true, s) := fun _ => rfl
    constructor
    · intro hrun
      rw [run_used (hread false)] at hrun
      by_cases hslash : c = '\\'
      · subst hslash
        exact ((ih (position + 1) hquotes).2 hrun).cons
      · by_cases hend : c = quote
        · subst hend
          have haccepted : (Token.operand (.string cs)).Accepted _ (c :: (body ++ [c])) :=
            .spelled (.operand (.string hquote hquotes))
          simp only [readQuoted, Bool.false_eq_true, if_false, hslash, if_true] at hrun
          exact Completes.cons
            (completes_operand (position + 1) haccepted (fun h => Bool.noConfusion h) hrun)
        · have hkeep : readQuoted ⟨.quoted quote false, cs, none, held⟩ quote false c =
              .ok ⟨.quoted quote false, cs ++ [c], none, held⟩ := by
            simp [readQuoted, hslash, hend, keep]
          rw [hkeep] at hrun
          have hmore := hquotes.append (.plain hend hslash .nil)
          exact ((ih (position + 1) hmore).1 hrun).cons
    · intro hrun
      rw [run_used (hread true)] at hrun
      have hmore := hquotes.append (.escaped (c := c) .nil)
      have hcompletes := (ih (position + 1) hmore).1 hrun
      refine Completes.cons ?_
      rw [List.cons_append, List.append_assoc]
      exact hcompletes

/-! ## Numerals -/

/-- A numeral that is ended by what follows. -/
theorem completes_numeral {whole fraction : List Char} {seenPoint : Bool}
    {buffer text rest : List Char} {position : Nat}
    (hread : Number.read? buffer = some (Number.numeralValue whole fraction))
    (hspelled : Operand.Spelled (.number whole fraction) text)
    (hends : EndsAt (.numeral seenPoint) rest)
    (hrun : run env ⟨.numeral seenPoint, buffer, none, held⟩ position rest = .ok v) :
    Completes env held v text rest := by
  have hends' : EndsAt (Scanner.mode ⟨.numeral seenPoint, buffer, none, held⟩) rest := hends
  rw [run_ended hends'] at hrun
  rw [finishToken] at hrun
  simp only [finishNumeral, hread] at hrun
  exact completes_operand position (.spelled (.operand hspelled))
    (fun h => Bool.noConfusion h) hrun

/-- A numeral behind its point. The buffer may have a zero in front that is not in the text. -/
theorem completes_fraction {whole digits : List Char} (rest : List Char)
    (hwhole : ∀ c ∈ whole, c.isDigit = true)
    (hread : ∀ fraction : List Char, (∀ c ∈ fraction, c.isDigit = true) →
      Number.read? (digits ++ '.' :: fraction) = some (Number.numeralValue whole fraction)) :
    ∀ {fraction : List Char} (position : Nat), whole ≠ [] ∨ fraction ≠ [] →
      (∀ c ∈ fraction, c.isDigit = true) →
      run env ⟨.numeral true, digits ++ '.' :: fraction, none, held⟩ position rest = .ok v →
      Completes env held v (whole ++ '.' :: fraction) rest := by
  -- the induction is on the text to come, while the digits that were read grow
  induction rest with
  | nil =>
    intro fraction position hne hfraction hrun
    exact completes_numeral (hread fraction hfraction) (.decimal hne hwhole hfraction) trivial hrun
  | cons c rest ih =>
    intro fraction position hne hfraction hrun
    by_cases hdigit : c.isDigit = true
    · have hmore : ∀ d ∈ fraction ++ [c], d.isDigit = true :=
        List.forall_mem_append.2 ⟨hfraction, List.forall_mem_singleton.2 hdigit⟩
      refine completes_scanned (scans_digits (List.forall_mem_singleton.2 hdigit) _ true) hrun ?_
      rw [List.append_assoc, List.append_assoc]
      exact ih (position + 1) (.inr (by simp)) hmore
    · -- a second point and a letter are errors, all else ends the numeral
      have hends : EndsAt (.numeral true) (c :: rest) := by
        by_contra hnot
        have hfails : ∃ e, read env ⟨.numeral true, digits ++ '.' :: fraction, none, held⟩ c
            position = .error e := by
          unfold read
          by_cases hdot : c = '.'
          · exact ⟨.lexical c position, by simp [hdot, show ('.' : Char).isDigit = false from rfl]⟩
          · have hstart : isNameStart c = true := by
              by_contra hno
              exact hnot ⟨by simpa using hdigit, hdot, by simpa using hno⟩
            exact ⟨.lexical c position, by simp [hdigit, hdot, hstart]⟩
        obtain ⟨e, he⟩ := hfails
        have hused := @run_used env _ c position (.error e) he rest
        rw [hused] at hrun
        cases hrun
      exact completes_numeral (hread fraction hfraction) (.decimal hne hwhole hfraction) hends hrun

/-- A numeral in front of its point. -/
theorem completes_digits (rest : List Char) :
    ∀ {digits : List Char} (position : Nat), digits ≠ [] → (∀ c ∈ digits, c.isDigit = true) →
      run env ⟨.numeral false, digits, none, held⟩ position rest = .ok v →
      Completes env held v digits rest := by
  induction rest with
  | nil =>
    intro digits position hne hdigits hrun
    exact completes_numeral (Number.read?_whole hne hdigits) (.whole hne hdigits) trivial hrun
  | cons c rest ih =>
    intro digits position hne hdigits hrun
    by_cases hdigit : c.isDigit = true
    · have hmore : ∀ d ∈ digits ++ [c], d.isDigit = true :=
        List.forall_mem_append.2 ⟨hdigits, List.forall_mem_singleton.2 hdigit⟩
      exact completes_scanned (scans_digits (List.forall_mem_singleton.2 hdigit) _ false) hrun
        (ih (position + 1) (by simp) hmore)
    · by_cases hdot : c = '.'
      · subst hdot
        have hread := fun fraction => @Number.read?_decimal digits fraction hne hdigits
        exact completes_scanned (scans_decimalPoint digits) hrun
          (completes_fraction rest hdigits hread (position + 1) (.inl hne) (List.forall_mem_nil _))
      -- a letter right behind the digits is an error
      · have hends : EndsAt (.numeral false) (c :: rest) := by
          refine ⟨by simpa using hdigit, hdot, ?_⟩
          by_contra hstart
          have hfails : read env ⟨.numeral false, digits, none, held⟩ c position =
              .error (.lexical c position) := by
            unfold read
            simp [hdigit, hdot, hstart]
          rw [@run_used env _ c position (.error _) hfails rest] at hrun
          cases hrun
        exact completes_numeral (Number.read?_whole hne hdigits) (.whole hne hdigits) hends hrun

/-! ## Paths -/

/-- A path that is ended by what follows. -/
theorem completes_path (h : held.expecting = true) (s : Scanner) {p : Path} {takesSlash : Bool}
    {text rest : List Char} {position : Nat}
    (haccepted : (Token.operand (.path p)).Accepted takesSlash text)
    (hslash : takesSlash = true → rest.head? ≠ some '/')
    (hfinish : s.finishToken env = .ok (pushed held (p.resolve env.scope)))
    (hended : run env s position rest =
      (s.finishToken env).bind fun s => run env s position rest)
    (hrun : run env s position rest = .ok v) : Completes env held v text rest := by
  rw [hended, hfinish] at hrun
  refine completes_operand position haccepted hslash ?_
  show ((held.pushOperand (p.resolve env.scope)).map between).bind _ = _
  rw [pushOperand_of_expecting h]
  exact hrun

/-- Behind a name in a path only a name character and a slash go on with the path. -/
theorem run_step_ended {p : Path} {step rest : List Char}
    (hrest : ∀ c cs, rest = c :: cs → isNameChar c = false ∧ c ≠ '/') (position : Nat) :
    run env ⟨.name, step, some p, held⟩ position rest =
      (finishToken env ⟨.name, step, some p, held⟩).bind fun s => run env s position rest := by
  cases rest with
  | nil =>
    have hends : EndsAt (Scanner.mode ⟨.name, step, some p, held⟩) [] := trivial
    exact run_ended hends position
  | cons c cs =>
    obtain ⟨hname, hslash⟩ := hrest c cs rfl
    refine run_again ?_ (fun s' => mode_of_finishToken) cs
    unfold read finishToken
    simp [hname, hslash]

/-- A slash behind a path that no step follows. -/
theorem completes_slash (h : held.expecting = true) {p : Path} (hp : p.Begun) {rest : List Char}
    (hends : EndsAt .slash rest) {position : Nat}
    (hrun : run env ⟨.slash, [], some p, held⟩ position rest = .ok v) :
    Completes env held v (p.lead ++ ['/']) rest := by
  have hends' : EndsAt (Scanner.mode ⟨.slash, [], some p, held⟩) rest := hends
  exact completes_path h ⟨.slash, [], some p, held⟩ (.slash hp) (fun h => Bool.noConfusion h)
    (finishPath_eq h .slash p) (run_ended hends' position) hrun

/-- A step of a path that is ended by what follows. -/
theorem completes_lastStep (h : held.expecting = true) {p : Path} (hp : p.Begun)
    {step rest : List Char} (hstep : IsStep step)
    (hrest : ∀ c cs, rest = c :: cs → isNameChar c = false ∧ c ≠ '/') {position : Nat}
    (hrun : run env ⟨.name, step, some p, held⟩ position rest = .ok v) :
    Completes env held v (p.lead ++ '/' :: step) rest := by
  have hstep' : IsStep (String.ofList step).toList := by
    rw [String.toList_ofList]
    exact hstep
  have hspelled := Operand.Spelled.path (Path.writable_followed hp hstep')
  rw [Path.spelling_followed, Path.lead_followed hp, String.toList_ofList] at hspelled
  refine completes_path h _ (.spelled (.operand hspelled)) (fun _ hhead => ?_)
    (finishToken_step h p step) (run_step_ended hrest position) hrun
  obtain ⟨cs, hcs⟩ := List.head?_eq_some_iff.1 hhead
  exact (hrest '/' cs hcs).2 rfl

/-- A path behind a slash, and in a step behind a slash. -/
theorem completes_step (h : held.expecting = true) (rest : List Char) :
    ∀ {p : Path} (position : Nat), p.Begun →
      (run env ⟨.slash, [], some p, held⟩ position rest = .ok v →
        Completes env held v (p.lead ++ ['/']) rest) ∧
      ∀ {step : List Char}, IsStep step →
        run env ⟨.name, step, some p, held⟩ position rest = .ok v →
          Completes env held v (p.lead ++ '/' :: step) rest := by
  -- steps and slashes take turns, so both states are followed at once
  induction rest with
  | nil =>
    intro p position hp
    have hends : EndsAt .slash [] := trivial
    refine ⟨completes_slash h hp hends, fun hstep => completes_lastStep h hp hstep ?_⟩
    intro c cs hnil
    cases hnil
  | cons c rest ih =>
    intro p position hp
    constructor
    · intro hrun
      by_cases hc : isNameChar c = true
      · have hstep : IsStep [c] := ⟨by simp, List.forall_mem_singleton.2 hc⟩
        have hscans := @scans_step env held (String.ofList [c]) (by rwa [String.toList_ofList]) p
        rw [String.toList_ofList] at hscans
        refine completes_scanned hscans hrun ?_
        rw [List.append_assoc]
        exact (ih (position + 1) hp).2 hstep
      · exact completes_slash h hp (by simpa [EndsAt] using hc) hrun
    · intro step hstep hrun
      by_cases hc : isNameChar c = true
      · refine completes_scanned (scans_name (List.forall_mem_singleton.2 hc) step (some p)) hrun ?_
        rw [List.append_assoc]
        exact (ih (position + 1) hp).2 (hstep.append hc)
      · by_cases hslash : c = '/'
        · subst hslash
          have hstep' : IsStep (String.ofList step).toList := by
            rw [String.toList_ofList]
            exact hstep
          have hscans := @scans_slash env held (String.ofList step) p
          rw [String.toList_ofList] at hscans
          have hcompletes := (ih (position + 1) (Path.begun_followed hp hstep')).1
          rw [Path.lead_followed hp, String.toList_ofList] at hcompletes
          exact completes_scanned hscans hrun hcompletes
        · refine completes_lastStep h hp hstep ?_ hrun
          rintro d ds ⟨⟩
          exact ⟨by simpa using hc, hslash⟩

/-! ## Names at the start of a token -/

theorem keyword?_eq_some {name : String} {w : Value} (h : keyword? name = some w) :
    ∃ k : Keyword, k.text = name ∧ k.value = w := by
  unfold keyword? at h
  split at h
  · rename_i hname
    exact ⟨.true, hname.symm, Option.some.inj h⟩
  · split at h
    · rename_i hname
      exact ⟨.false, hname.symm, Option.some.inj h⟩
    · split at h
      · rename_i hname
        exact ⟨.null, hname.symm, Option.some.inj h⟩
      · cases h

theorem begun_name {name : List Char} (h : IsName name) :
    Path.Begun ⟨.scoped, [String.ofList name]⟩ := by
  have hname : IsName (String.ofList name).toList := by
    rw [String.toList_ofList]
    exact h
  refine ⟨fun step hstep => ?_, fun _ => ⟨_, [], rfl, hname⟩⟩
  rw [List.mem_singleton.1 hstep]
  exact hname.isStep

theorem lead_name (name : List Char) : Path.lead ⟨.scoped, [String.ofList name]⟩ = name := by
  show (String.ofList name).toList ++ slashed [] = name
  rw [String.toList_ofList]
  exact List.append_nil name

/-- A name that is ended by what follows is a keyword or a path. -/
theorem completes_ended {name rest : List Char} {position : Nat} (hname : IsName name)
    (hends : EndsAt .name rest)
    (hrun : run env ⟨.name, name, none, held⟩ position rest = .ok v) :
    Completes env held v name rest := by
  have hends' : EndsAt (Scanner.mode ⟨.name, name, none, held⟩) rest := hends
  have hended : run env ⟨.name, name, none, held⟩ position rest = _ := run_ended hends' position
  have hslash : rest.head? ≠ some '/' := by
    cases rest with
    | nil => exact nofun
    | cons c cs => exact fun hhead => hends.2.2 (Option.some.inj hhead)
  -- a name is a keyword, or else the first step of a path
  cases hk : keyword? (String.ofList name) with
  | some w =>
    obtain ⟨k, hk', rfl⟩ := keyword?_eq_some hk
    have hspelled := Operand.Spelled.keyword k
    rw [hk', String.toList_ofList] at hspelled
    rw [hended, finishToken] at hrun
    simp only [finishName, Option.isNone_none, if_true, hk] at hrun
    exact completes_operand position (.spelled (.operand hspelled)) (fun _ => hslash) hrun
  | none =>
    have hexpecting : held.expecting = true := by
      by_contra hnot
      rw [hended] at hrun
      simp [finishToken, finishName, hk, addStep, hnot, stop, Except.bind] at hrun
    have hbegun := begun_name hname
    have hwritable : Path.Writable ⟨.scoped, [String.ofList name]⟩ := by
      obtain ⟨first, others, hsteps, hfirst⟩ := hbegun.named rfl
      obtain ⟨rfl, rfl⟩ := List.cons.inj hsteps
      refine ⟨hbegun.steps, fun _ => ⟨_, [], rfl, hfirst, fun _ k hkeyword => ?_⟩⟩
      rw [← hkeyword, keyword?_text] at hk
      cases hk
    have hspelled := Operand.Spelled.path hwritable
    rw [show Path.spelling ⟨.scoped, [String.ofList name]⟩ = name from lead_name name] at hspelled
    refine completes_path hexpecting _ (.spelled (.operand hspelled)) (fun _ => hslash) ?_ hended
      hrun
    simp [finishToken, finishName, hk, addStep, hexpecting, Except.bind, finishPath_eq hexpecting]

/-- A name at the start of a token. -/
theorem completes_name (rest : List Char) : ∀ {name : List Char} (position : Nat), IsName name →
    run env ⟨.name, name, none, held⟩ position rest = .ok v → Completes env held v name rest := by
  induction rest with
  | nil =>
    intro name position hname hrun
    exact completes_ended hname trivial hrun
  | cons c rest ih =>
    intro name position hname hrun
    by_cases hc : isNameChar c = true
    · exact completes_scanned (scans_name (List.forall_mem_singleton.2 hc) name none) hrun
        (ih (position + 1) (hname.append hc))
    -- a parenthesis makes the name that of a call, a slash that of a path
    · by_cases hopen : c = '('
      · subst hopen
        have hread := read_call env held (String.ofList name) position
        rw [String.toList_ofList] at hread
        rw [run_used hread] at hrun
        obtain ⟨s, hopened, hrest⟩ := bind_eq_ok hrun
        obtain ⟨held', hcall, rfl⟩ := map_eq_ok hopened
        have hexpecting : held.expecting = true := by
          rw [Stacks.openCall] at hcall
          split at hcall
          · assumption
          · cases hcall
        have hname' : IsName (String.ofList name).toList := by
          rw [String.toList_ofList]
          exact hname
        have hspelled := Token.Spelled.call hname'
        rw [String.toList_ofList] at hspelled
        exact Completes.cons (completes_here (.spelled hspelled) hexpecting
          (fun h => Bool.noConfusion h) hcall hrest)
      · by_cases hslash : c = '/'
        · subst hslash
          have hexpecting : held.expecting = true := by
            by_contra hnot
            have hfails : read env ⟨.name, name, none, held⟩ '/' position =
                (Except.error (.problem (.nameAfterOperand (String.ofList name)))).map
                  fun s => (true, s) := by
              unfold read
              simp [show isNameChar '/' = false by decide, addStep, hnot, stop, Except.map]
            rw [run_used hfails] at hrun
            cases hrun
          have hscans := @scans_nameSlash env held hexpecting (String.ofList name)
          rw [String.toList_ofList] at hscans
          refine completes_scanned hscans hrun fun hrest => ?_
          have hcompletes :=
            (completes_step hexpecting rest (position + 1) (begun_name hname)).1 hrest
          rw [lead_name] at hcompletes
          exact hcompletes
        · exact completes_ended hname ⟨by simpa using hc, hopen, hslash⟩ hrun

/-! ## Dots -/

/-- A root other than a name is begun. -/
theorem begun_root {root : Root} (h : root ≠ .scoped) : Path.Begun ⟨root, []⟩ :=
  ⟨List.forall_mem_nil _, fun hroot => absurd hroot h⟩

theorem writable_root {root : Root} (h : root ≠ .scoped) : Path.Writable ⟨root, []⟩ :=
  ⟨List.forall_mem_nil _, fun hroot => absurd hroot h⟩

theorem completes_dots (h : held.expecting = true) {rest : List Char} {position : Nat}
    (hrun : run env ⟨.dots, [], none, held⟩ position rest = .ok v) :
    Completes env held v ['.', '.'] rest := by
  by_cases hslash : rest.head? = some '/'
  · obtain ⟨cs, rfl⟩ := List.head?_eq_some_iff.1 hslash
    exact completes_scanned (scans_parentSlash h) hrun
      (completes_step h cs (position + 1) (begun_root (by decide))).1
  · have hends : EndsAt (Scanner.mode ⟨.dots, [], none, held⟩) rest := by
      cases rest with
      | nil => trivial
      | cons c cs => exact fun hc => hslash (congrArg some hc)
    have hspelled := Operand.Spelled.path (@writable_root .parent (by decide))
    exact completes_path h ⟨.dots, [], none, held⟩ (.spelled (.operand hspelled)) (fun _ => hslash)
      (finishRoot_eq h .dots .parent) (run_ended hends position) hrun

theorem completes_dot (h : held.expecting = true) {rest : List Char} {position : Nat}
    (hrun : run env ⟨.dot, [], none, held⟩ position rest = .ok v) :
    Completes env held v ['.'] rest := by
  have hended : EndsAt .dot rest → rest.head? ≠ some '/' → Completes env held v ['.'] rest := by
    intro hends hslash
    have hends' : EndsAt (Scanner.mode ⟨.dot, [], none, held⟩) rest := hends
    have hspelled := Operand.Spelled.path (@writable_root .current (by decide))
    exact completes_path h ⟨.dot, [], none, held⟩ (.spelled (.operand hspelled)) (fun _ => hslash)
      (finishRoot_eq h .dot .current) (run_ended hends' position) hrun
  cases rest with
  | nil => exact hended trivial nofun
  | cons c cs =>
    -- a point may be the start of a second one, of a path or of a fraction
    by_cases hdot : c = '.'
    · subst hdot
      exact completes_scanned scans_secondPoint hrun (completes_dots h)
    · by_cases hslash : c = '/'
      · subst hslash
        exact completes_scanned (scans_currentSlash h) hrun
          (completes_step h cs (position + 1) (begun_root (by decide))).1
      · by_cases hdigit : c.isDigit = true
        · exact completes_scanned (scans_firstDecimal hdigit) hrun
            (completes_fraction cs (List.forall_mem_nil _) (fun _ => read?_bareDecimal)
              (position + 1) (.inr (List.cons_ne_nil c [])) (List.forall_mem_singleton.2 hdigit))
        · exact hended ⟨hdot, hslash, by simpa using hdigit⟩
            fun hhead => hslash (Option.some.inj hhead)

/-! ## The start of a token -/

/-- A token that is taken in stands where it may; a sign is not checked by the stacks. -/
theorem fits_of_feed {held' : Stacks} {t : Token} (h : held.feed env t = .ok held')
    (hsign : ∀ s, t = .sign s → held.expecting = true) : t.Fits held.expecting := by
  cases hexpecting : held.expecting with
  | true =>
    cases t with
    | binary op => simp [Stacks.feed, Stacks.pushBinary, hexpecting, stop] at h
    | comma => simp [Stacks.feed, Stacks.comma, hexpecting, stop] at h
    | closing => trivial
    | _ => rfl
  | false =>
    cases t with
    | operand o => simp [Stacks.feed, Stacks.pushOperand, hexpecting, stop] at h
    | sign s =>
      rw [hsign s rfl] at hexpecting
      cases hexpecting
    | opening => simp [Stacks.feed, Stacks.openGroup, hexpecting, stop] at h
    | call name => simp [Stacks.feed, Stacks.openCall, hexpecting, stop] at h
    | closing => trivial
    | _ => rfl

/-- A token of one character. -/
theorem completes_char {t : Token} {c : Char} {rest : List Char} {position : Nat}
    (hspelled : t.Spelled [c]) (htakes : t.takesSlash = false)
    (hsign : ∀ s, t = .sign s → held.expecting = true)
    (hrun : ((between held).onHeld (held.feed env t)).bind
      (fun s => run env s position rest) = .ok v) : Completes env held v [c] rest := by
  obtain ⟨s, hfed, hrest⟩ := bind_eq_ok hrun
  obtain ⟨held', hfeed, rfl⟩ := map_eq_ok hfed
  have haccepted := Token.Accepted.spelled hspelled
  rw [htakes] at haccepted
  exact completes_here haccepted (fits_of_feed hfeed hsign) nofun hfeed hrest

theorem completes_sign {sign : Sign} {op : Binary} (hsymbol : op.symbol = sign.symbol)
    {rest : List Char} {position : Nat}
    (hrun : ((between held).signOrOperator sign op).bind
      (fun s => run env s position rest) = .ok v) :
    Completes env held v [sign.symbol] rest := by
  cases hexpecting : held.expecting with
  | true =>
    have hsign : (between held).signOrOperator sign op =
        (between held).onHeld (held.feed env (.sign sign)) := if_pos hexpecting
    rw [hsign] at hrun
    exact completes_char (.sign sign) rfl (fun _ _ => hexpecting) hrun
  | false =>
    have hbinary : (between held).signOrOperator sign op =
        (between held).onHeld (held.feed env (.binary op)) := if_neg (by simp [between, hexpecting])
    rw [hbinary] at hrun
    have hspelled := Token.Spelled.binary op
    rw [hsymbol] at hspelled
    exact completes_char hspelled rfl (fun _ h => Token.noConfusion h) hrun

/-- A slash is the root where an operand may stand, and a division elsewhere. -/
theorem completes_startSlash {rest : List Char} {position next : Nat}
    (hrun : (readIdle env (between held) '/' position).bind
      (fun s => run env s next rest) = .ok v) : Completes env held v ['/'] rest := by
  cases hexpecting : held.expecting with
  | true =>
    have habsolute : readIdle env (between held) '/' position =
        .ok ⟨.slash, [], some ⟨.absolute, []⟩, held⟩ := by
      simp [readIdle, between, hexpecting, beginPath, goto, Except.map]
    rw [habsolute] at hrun
    exact (completes_step hexpecting rest next (begun_root (by decide))).1 hrun
  | false =>
    have hdivision : readIdle env (between held) '/' position =
        (between held).onHeld (held.feed env (.binary .div)) := by
      simp [readIdle, between, hexpecting, Stacks.feed]
    rw [hdivision] at hrun
    exact completes_char (.binary .div) rfl (fun _ h => Token.noConfusion h) hrun

/-- A point may stand only where an operand may. -/
theorem completes_startPoint {rest : List Char} {position next : Nat}
    (hrun : (readIdle env (between held) '.' position).bind
      (fun s => run env s next rest) = .ok v) : Completes env held v ['.'] rest := by
  cases hexpecting : held.expecting with
  | true =>
    have hdot : readIdle env (between held) '.' position = .ok ⟨.dot, [], none, held⟩ := by
      simp [readIdle, between, hexpecting, goto]
    rw [hdot] at hrun
    exact completes_dot hexpecting hrun
  | false =>
    have hdot : readIdle env (between held) '.' position = .error (.lexical '.' position) := by
      simp [readIdle, between, hexpecting]
    rw [hdot] at hrun
    cases hrun

/-- A character with a meaning of its own is a token or the start of one. -/
theorem completes_special {c : Char} (hspecial : c ∈ specials) {rest : List Char}
    {position next : Nat} (hrun : (readIdle env (between held) c position).bind
      (fun s => run env s next rest) = .ok v) : Completes env held v [c] rest := by
  simp only [specials, List.mem_cons, List.not_mem_nil, or_false] at hspecial
  rcases hspecial with rfl | rfl | rfl | rfl | rfl | rfl | rfl | rfl | rfl | rfl
  · exact (completes_quoted (.inl rfl) rest next .nil).1 hrun
  · exact (completes_quoted (.inr rfl) rest next .nil).1 hrun
  · exact @completes_sign env held v .plus .add rfl _ _ hrun
  · exact @completes_sign env held v .minus .sub rfl _ _ hrun
  · exact completes_char (.binary .mul) rfl (fun _ h => Token.noConfusion h) hrun
  · exact completes_startSlash hrun
  · exact completes_char .opening rfl (fun _ h => Token.noConfusion h) hrun
  · exact completes_char .closing rfl (fun _ h => Token.noConfusion h) hrun
  · exact completes_char .comma rfl (fun _ h => Token.noConfusion h) hrun
  · exact completes_startPoint hrun

/-- **What an expression with a value starts with**: white space, or a token. -/
theorem completes_start {c : Char} {rest : List Char} {position : Nat}
    (hrun : run env (between held) position (c :: rest) = .ok v) :
    (isBlank c = true ∧ run env (between held) (position + 1) rest = .ok v) ∨
      Completes env held v [c] rest := by
  rw [run_used (read_idle env rfl c position)] at hrun
  by_cases hspecial : c ∈ specials
  · exact .inr (completes_special hspecial hrun)
  · rw [readIdle_of_notMem hspecial] at hrun
    split at hrun
    · rename_i hdigit
      right
      exact completes_digits rest (position + 1) (List.cons_ne_nil c [])
        (List.forall_mem_singleton.2 hdigit) hrun
    · split at hrun
      · rename_i hstart
        right
        exact completes_name rest (position + 1) ⟨c, [], rfl, hstart, List.forall_mem_nil _⟩ hrun
      · split at hrun
        · rename_i hblank
          exact .inl ⟨hblank, hrun⟩
        · cases hrun

end Scanner

end TagTemplate.Expr
