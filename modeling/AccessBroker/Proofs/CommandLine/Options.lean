/-
Options as they are read.

An option is written in one of five ways (`Spells`). Whichever it is, a reader of arguments takes it
as one step (`Flag.take`), and options one after another as these steps one after another
(`ReadsOptions.flags`), in front of a command and behind it alike. What the options come to therefore
hangs on the options alone: commands that are asked for with the same options are given the same
values (`read_command`, `read_classify`).
-/
import AccessBroker.CommandLine.Arguments
import AccessBroker.Proofs.Address.Basic
import AccessBroker.Proofs.Broker.Basic
import AccessBroker.Proofs.Text.Split

namespace AccessBroker.CommandLine

/-! ## Options -/

/-- An argument that is taken for a value, because it names no option. -/
def IsBare (s : String) : Prop := ∀ c cs, s.toList ≠ '-' :: c :: cs

theorem isBare_of_head? {s : String} (h : s.toList.head? ≠ some '-') : IsBare s := by
  intro c cs hs
  rw [hs] at h
  exact h rfl

/-- The ways to write an option with its value, and whether the value stands apart in them. -/
inductive Spells (c : Choice) (value : String) : Bool → List String → Prop
  | long (h : IsBare value) : Spells c value true ["--" ++ c.long, value]
  | longJoined : Spells c value false ["--" ++ c.long ++ "=" ++ value]
  | short {n : Char} (hn : c.short? = some n) (h : IsBare value) :
    Spells c value true [String.ofList ['-', n], value]
  | shortJoined {n : Char} (hn : c.short? = some n) :
    Spells c value false [String.ofList ('-' :: n :: '=' :: value.toList)]
  | shortGlued {n d : Char} {ds : List Char} (hn : c.short? = some n)
    (h : value.toList = d :: ds) (hd : d ≠ '=') :
    Spells c value false [String.ofList ('-' :: n :: value.toList)]

/-- An option with its value, as it is written. -/
structure Flag where
  choice : Choice
  value : String
  apart : Bool
  args : List String
  spells : Spells choice value apart args

/-- An option whose value was read but not looked at yet. -/
abbrev Waiting := Option (Choice × String)

/-- It waits for nothing more. -/
def Waiting.pending (w : Waiting) : Pending := w.map fun p => (.choice p.1, some p.2)

/-- Takes one option: what waited is looked at, and the value waits if it stands apart. -/
def Flag.take (s : Given × Waiting) (f : Flag) : Except Misuse (Given × Waiting) := do
  let g ← s.1.settle s.2.pending
  if f.apart then .ok (g, some (f.choice, f.value))
  else do
    let g ← g.settle (some (.choice f.choice, some f.value))
    .ok (g, none)

/-- The arguments of options one after another. -/
def argsOf (fs : List Flag) : List String := fs.flatMap Flag.args

/-! ## Readers -/

/-- Goes on with a reader behind one argument. -/
def resume (read : Given → Pending → List String → Except Misuse Asked) (rest : List String) :
    Step → Except Misuse Asked
  | .more g pending => read g pending rest
  | .version => .ok .version
  | .help => .ok .help

/-- A reader that takes options as they may stand in its place. -/
structure ReadsOptions (behind : Bool)
    (read : Given → Pending → List String → Except Misuse Asked) : Prop where
  long {g : Given} {pending : Pending} {s : String} {rest : List String} {cs : List Char}
    (hcs : cs ≠ []) (hs : s.toList = '-' :: '-' :: cs) :
    read g pending (s :: rest) = takeLong behind g pending cs >>= resume read rest
  short {g : Given} {pending : Pending} {s : String} {rest : List String} {n : Char}
    {cs : List Char} (hn : n ≠ '-') (hs : s.toList = '-' :: n :: cs) :
    read g pending (s :: rest) = takeShort behind g pending n cs >>= resume read rest
  value {g : Given} {slot : Slot} {s : String} {rest : List String} (hs : IsBare s) :
    read g (some (slot, none)) (s :: rest) = read g (some (slot, some s)) rest

theorem readsOptions_outer (env : Environment) : ReadsOptions false (readOuter env false) where
  long {g pending s rest cs} hcs hs := by
    rw [readOuter.eq_def]
    simp only [hs, if_neg Bool.false_ne_true]
    rfl
  short {g pending s rest n cs} hn hs := by
    rw [readOuter.eq_def]
    simp only [hs, if_neg Bool.false_ne_true]
    split
    · next heq => simp_all
    · next heq => simp_all
    · next heq =>
      cases heq
      rfl
    · next hnot => exact absurd rfl (hnot n cs)
  value {g slot s rest} hs := by
    rw [readOuter.eq_def]
    simp only [if_neg Bool.false_ne_true]
    split
    · next heq => exact absurd heq (hs _ _)
    · next heq => exact absurd heq (hs _ _)
    · next heq => exact absurd heq (hs _ _)
    · rfl

theorem readsOptions_inner (command : CommandName) :
    ReadsOptions true (readInner command false) where
  long {g pending s rest cs} hcs hs := by
    rw [readInner.eq_def]
    simp only [hs, if_neg Bool.false_ne_true]
    rfl
  short {g pending s rest n cs} hn hs := by
    rw [readInner.eq_def]
    simp only [hs, if_neg Bool.false_ne_true]
    split
    · next heq => simp_all
    · next heq => simp_all
    · next heq =>
      cases heq
      rfl
    · next hnot => exact absurd rfl (hnot n cs)
  value {g slot s rest} hs := by
    rw [readInner.eq_def]
    simp only [if_neg Bool.false_ne_true]
    split
    · next heq => exact absurd heq (hs _ _)
    · next heq => exact absurd heq (hs _ _)
    · next heq => exact absurd heq (hs _ _)
    · rfl

/-! ## One option -/

/-- Whether an option may stand in a place. -/
def Choice.stands (behind : Bool) (c : Choice) : Bool := !behind || c.isGlobal

variable {behind : Bool} {c : Choice}

theorem find?_long (h : c.stands behind = true) :
    (choicesAt behind).find? (fun d => decide (d.long = c.long)) = some c := by
  cases behind
  · cases c <;> decide
  · cases c
    all_goals first | decide | cases h

theorem find?_short (h : c.stands behind = true) {n : Char} (hn : c.short? = some n) :
    (choicesAt behind).find? (fun d => decide (d.short? = some n)) = some c := by
  cases c with
  | config =>
    rw [← hn]
    cases behind <;> decide
  | port =>
    rw [← hn]
    cases behind
    · decide
    · cases h
  | host | logLevel | logFormat => cases hn

theorem long_ne_nil (c : Choice) : c.long.toList ≠ [] := by
  cases c <;> decide

theorem ne_of_short? {n : Char} (hn : c.short? = some n) : n ≠ '-' := by
  cases c with
  | config | port =>
    cases hn
    decide
  | host | logLevel | logFormat => cases hn

theorem not_mem_long (c : Choice) : '=' ∉ c.long.toList := by
  cases c <;> decide

theorem takeLong_apart (h : c.stands behind = true) (g : Given) (pending : Pending) :
    takeLong behind g pending c.long.toList = takeChoice g pending c none := by
  have hsplit : Text.splitFirst? '=' c.long.toList = none := by
    cases c <;> decide
  simp only [takeLong, hsplit, String.ofList_toList, find?_long h]

theorem takeLong_joined (h : c.stands behind = true) (g : Given) (pending : Pending)
    (value : String) : takeLong behind g pending (c.long.toList ++ '=' :: value.toList) =
      takeChoice g pending c (some value) := by
  have hsplit := Text.splitFirst?_append value.toList (not_mem_long c)
  simp only [takeLong, hsplit, String.ofList_toList, find?_long h]

theorem takeShort_apart (h : c.stands behind = true) {n : Char} (hn : c.short? = some n) (g : Given)
    (pending : Pending) : takeShort behind g pending n [] = takeChoice g pending c none := by
  simp only [takeShort, find?_short h hn]

theorem takeShort_joined (h : c.stands behind = true) {n : Char} (hn : c.short? = some n) (g : Given)
    (pending : Pending) (value : String) :
    takeShort behind g pending n ('=' :: value.toList) = takeChoice g pending c (some value) := by
  simp only [takeShort, find?_short h hn, String.ofList_toList]

theorem takeShort_glued (h : c.stands behind = true) {n d : Char} (hn : c.short? = some n)
    (hd : d ≠ '=') (g : Given) (pending : Pending) {value : String} {ds : List Char}
    (hvalue : value.toList = d :: ds) :
    takeShort behind g pending n value.toList = takeChoice g pending c (some value) := by
  have hback : String.ofList (d :: ds) = value := by rw [← hvalue, String.ofList_toList]
  simp only [takeShort, find?_short h hn, hvalue]
  split
  · next heq => cases heq
  · next heq => exact absurd (List.cons.inj heq).1 hd
  · rw [hback]

theorem takeChoice_none (read : Given → Pending → List String → Except Misuse Asked) (g : Given)
    (pending : Pending) (rest : List String) : takeChoice g pending c none >>= resume read rest =
      g.settle pending >>= fun g => read g (some (.choice c, none)) rest := by
  rw [takeChoice, bind_assoc]
  rfl

theorem takeChoice_some (read : Given → Pending → List String → Except Misuse Asked) (g : Given)
    (pending : Pending) (value : String) (rest : List String) :
    takeChoice g pending c (some value) >>= resume read rest =
      g.settle pending >>= fun g => g.settle (some (.choice c, some value)) >>= fun g =>
        read g none rest := by
  rw [takeChoice, bind_assoc]
  refine bind_congr ?_
  intro g
  rw [bind_assoc]
  rfl

theorem Flag.take_of_apart {f : Flag} (h : f.apart = true) (s : Given × Waiting)
    (k : Given × Waiting → Except Misuse Asked) : f.take s >>= k =
      s.1.settle s.2.pending >>= fun g => k (g, some (f.choice, f.value)) := by
  simp only [Flag.take, h, if_true, bind_assoc]
  rfl

theorem Flag.take_of_joined {f : Flag} (h : f.apart = false) (s : Given × Waiting)
    (k : Given × Waiting → Except Misuse Asked) : f.take s >>= k =
      s.1.settle s.2.pending >>= fun g => g.settle (some (.choice f.choice, some f.value)) >>=
        fun g => k (g, none) := by
  simp only [Flag.take, h, if_neg Bool.false_ne_true, bind_assoc]
  rfl

/-- **One option** is one step, however it is written. -/
theorem ReadsOptions.flag {read : Given → Pending → List String → Except Misuse Asked}
    (hread : ReadsOptions behind read) (s : Given × Waiting) {f : Flag}
    (hf : f.choice.stands behind = true) (rest : List String) :
    read s.1 s.2.pending (f.args ++ rest) = f.take s >>= fun s => read s.1 s.2.pending rest := by
  obtain ⟨c, value, apart, args, hspells⟩ := f
  cases hspells with
  | long hvalue =>
    have hs : ("--" ++ c.long).toList = '-' :: '-' :: c.long.toList := by simp
    rw [List.cons_append, hread.long (long_ne_nil c) hs, takeLong_apart hf, takeChoice_none,
      Flag.take_of_apart rfl]
    exact bind_congr fun g => hread.value hvalue
  | longJoined =>
    have hs : ("--" ++ c.long ++ "=" ++ value).toList =
        '-' :: '-' :: (c.long.toList ++ '=' :: value.toList) := by simp
    rw [List.cons_append, hread.long (by simp) hs, takeLong_joined hf, takeChoice_some,
      Flag.take_of_joined rfl]
    rfl
  | @short n hn hvalue =>
    have hs : (String.ofList ['-', n]).toList = ['-', n] := String.toList_ofList
    rw [List.cons_append, hread.short (ne_of_short? hn) hs, takeShort_apart hf hn, takeChoice_none,
      Flag.take_of_apart rfl]
    exact bind_congr fun g => hread.value hvalue
  | @shortJoined n hn =>
    have hs : (String.ofList ('-' :: n :: '=' :: value.toList)).toList =
        '-' :: n :: '=' :: value.toList := String.toList_ofList
    rw [List.cons_append, hread.short (ne_of_short? hn) hs, takeShort_joined hf hn, takeChoice_some,
      Flag.take_of_joined rfl]
    rfl
  | @shortGlued n d ds hn hvalue hd =>
    have hs : (String.ofList ('-' :: n :: value.toList)).toList = '-' :: n :: value.toList :=
      String.toList_ofList
    rw [List.cons_append, hread.short (ne_of_short? hn) hs, takeShort_glued hf hn hd _ _ hvalue,
      takeChoice_some, Flag.take_of_joined rfl]
    rfl

/-- **Options one after another** are their steps one after another. -/
theorem ReadsOptions.flags {read : Given → Pending → List String → Except Misuse Asked}
    (hread : ReadsOptions behind read) (rest : List String) : ∀ {fs : List Flag},
    (∀ f ∈ fs, f.choice.stands behind = true) → ∀ s : Given × Waiting,
    read s.1 s.2.pending (argsOf fs ++ rest) =
      fs.foldlM Flag.take s >>= fun s => read s.1 s.2.pending rest
  | [], _, s => rfl
  | f :: fs, hfs, s => by
    have hf := hfs f List.mem_cons_self
    rw [argsOf, List.flatMap_cons, List.append_assoc, hread.flag s hf, List.foldlM_cons, bind_assoc]
    refine bind_congr fun s => ?_
    exact hread.flags rest (fun f hf => hfs f (List.mem_cons_of_mem _ hf)) s

/-! ## Addresses -/

/-- The same values, with an address. -/
def Given.withAddress (g : Given) (a : Option Address) : Given := { g with address := a }

theorem take_withAddress (g : Given) (a : Option Address) (c : Choice) (value : String) :
    (g.withAddress a).take (.choice c) value =
      (g.take (.choice c) value).map (·.withAddress a) := by
  cases c with
  | config =>
    simp only [Given.take]
    split
    · rfl
    · rfl
  | port =>
    simp only [Given.take]
    split
    · rfl
    · rfl
  | host | logLevel | logFormat => rfl

theorem has_withAddress (g : Given) (a : Option Address) (c : Choice) :
    (g.withAddress a).has (.choice c) = g.has (.choice c) := by
  cases c <;> rfl

theorem settle_withAddress (g : Given) (a : Option Address) (w : Waiting) :
    (g.withAddress a).settle w.pending = (g.settle w.pending).map (·.withAddress a) := by
  cases w with
  | none => rfl
  | some p =>
    simp only [Waiting.pending, Option.map_some, Given.settle, has_withAddress, take_withAddress]
    split
    · rfl
    · rfl

theorem fill_withAddress (env : Environment) (a : Option Address) :
    ∀ (cs : List Choice) (g : Given),
    (g.withAddress a).fill env cs = (g.fill env cs).map (·.withAddress a)
  | [], g => rfl
  | c :: cs, g => by
    rw [Given.fill, Given.fill]
    split
    · next value _ =>
      rw [has_withAddress, take_withAddress]
      split
      · exact fill_withAddress env a cs g
      · cases g.take (.choice c) value with
        | error f => rfl
        | ok g' => exact fill_withAddress env a cs g'
    · exact fill_withAddress env a cs g

/-- The values of options leave the address alone. -/
theorem address_of_settle {g g' : Given} {w : Waiting} (h : g.settle w.pending = .ok g') :
    g'.address = g.address := by
  have hsame := settle_withAddress g g.address w
  rw [show g.withAddress g.address = g from rfl, h] at hsame
  have hkept : g' = g'.withAddress g.address := Except.ok.inj hsame
  rw [hkept]
  rfl

theorem address_of_take {f : Flag} {s s' : Given × Waiting} (h : f.take s = .ok s') :
    s'.1.address = s.1.address := by
  obtain ⟨g, hg, h⟩ := Broker.bind_eq_ok_iff.mp h
  split at h
  · cases h
    exact address_of_settle hg
  · obtain ⟨g', hg', h⟩ := Broker.bind_eq_ok_iff.mp h
    cases h
    have hvalue : g'.address = g.address := address_of_settle (w := some (f.choice, f.value)) hg'
    exact hvalue.trans (address_of_settle hg)

theorem address_of_foldlM : ∀ {fs : List Flag} {s s' : Given × Waiting},
    fs.foldlM Flag.take s = .ok s' → s'.1.address = s.1.address
  | [], s, s', h => by
    cases h
    rfl
  | f :: fs, s, s', h => by
    rw [List.foldlM_cons] at h
    cases hf : f.take s with
    | error e =>
      rw [hf] at h
      cases h
    | ok s₁ =>
      rw [hf] at h
      exact (address_of_foldlM h).trans (address_of_take hf)

theorem isBare_text (a : Address) : IsBare a.text := by
  intro c cs h
  have hmem : '-' ∈ Address.alphabet := a.text_subset (h ▸ List.mem_cons_self)
  exact absurd hmem (by decide)

/-! ## Commands -/

/-- The values that options behind a command come to, when those of the environment are good too. -/
def behindOf (env : Environment) (back : List Flag) : Except Misuse Given := do
  let s ← back.foldlM Flag.take (Given.nothing, none)
  let g ← s.1.settle s.2.pending
  let _ ← g.fill env (choicesAt true)
  .ok g

/-- The values that options in front of a command and behind it come to. -/
def valuesOf (env : Environment) (front back : List Flag) : Except Misuse Given := do
  let s ← front.foldlM Flag.take (Given.nothing, none)
  let inner ← behindOf env back
  let outer ← s.1.settle s.2.pending
  (inner.orElse outer).fill env Choice.all

variable {env : Environment} {front back : List Flag}

theorem inner_of_flags {command : CommandName} (hcommand : command ≠ .classify)
    (hback : ∀ f ∈ back, f.choice.stands true = true) :
    inner env command (argsOf back) = (behindOf env back).map (.run command) := by
  have hread := (readsOptions_inner command).flags [] hback (Given.nothing, none)
  rw [List.append_nil] at hread
  rw [inner, behindOf, show readInner command false .nothing none (argsOf back) = _ from hread]
  cases hfold : back.foldlM Flag.take (Given.nothing, none) with
  | error e => rfl
  | ok s =>
    cases hsettle : s.1.settle s.2.pending with
    | error e => simp [readInner, hsettle, Except.map, bind, Except.bind]
    | ok g =>
      cases hfill : g.fill env (choicesAt true) with
      | error e => simp [readInner, hsettle, hfill, Except.map, bind, Except.bind]
      | ok filled =>
        simp [readInner, hsettle, hfill, hcommand, Except.map, bind, Except.bind]

/-- An address behind the options of a command is kept for the command. -/
theorem readInner_address {g : Given} (hg : g.address = none) (w : Waiting) (a : Address) :
    readInner .classify false g w.pending [a.text] =
      (g.settle w.pending).map fun g => .run .classify (g.withAddress a) := by
  have hfree : (w.pending.any fun p => decide (p.1 = .address)) = false := by
    cases w with
    | none => rfl
    | some p => simp [Waiting.pending]
  have hvalue : readInner .classify false g w.pending [a.text] = g.settle w.pending >>= fun g =>
      readInner .classify false g (some (.address, some a.text)) [] := by
    rw [readInner.eq_def]
    simp only [if_neg Bool.false_ne_true]
    split
    · next heq => exact absurd heq (isBare_text a _ _)
    · next heq => exact absurd heq (isBare_text a _ _)
    · next heq => exact absurd heq (isBare_text a _ _)
    · have hcan : (decide True && !g.has .address &&
          !w.pending.any fun p => decide (p.1 = .address)) = true := by
        simp [Given.has, hg, hfree]
      rw [if_pos hcan]
      cases w with
      | none => rfl
      | some p => rfl
  rw [hvalue]
  cases hsettle : g.settle w.pending with
  | error e => rfl
  | ok g' =>
    have haddress : g'.address = none := (address_of_settle hsettle).trans hg
    simp [readInner, Given.settle, Given.has, haddress, Given.take, Address.ofText?_text,
      Given.withAddress, Except.map, bind, Except.bind]

theorem inner_classify_of_flags (a : Address) (hback : ∀ f ∈ back, f.choice.stands true = true) :
    inner env .classify (argsOf back ++ [a.text]) =
      (behindOf env back).map fun g => .run .classify (g.withAddress a) := by
  have hread := (readsOptions_inner .classify).flags [a.text] hback (Given.nothing, none)
  rw [inner, behindOf, show readInner .classify false .nothing none _ = _ from hread]
  cases hfold : back.foldlM Flag.take (Given.nothing, none) with
  | error e => rfl
  | ok s =>
    have haddress : s.1.address = none := address_of_foldlM hfold
    have hvalue := readInner_address haddress s.2 a
    cases hsettle : s.1.settle s.2.pending with
    | error e => simp [hvalue, hsettle, Except.map, bind, Except.bind]
    | ok g =>
      cases hfill : g.fill env (choicesAt true) with
      | error e =>
        simp [hvalue, hsettle, hfill, fill_withAddress, Except.map, bind, Except.bind]
      | ok filled =>
        have hfilled : (g.withAddress a).fill env (choicesAt true) = .ok (filled.withAddress a) := by
          rw [fill_withAddress, hfill]
          rfl
        have hhas : (filled.withAddress a).has .address = true := rfl
        simp [hvalue, hsettle, hfill, hfilled, hhas, Except.map, bind, Except.bind]

/-- The name of a command, behind options and with its own arguments behind it. -/
theorem readOuter_command {name : String} {command : CommandName}
    (hname : commandNamed? name = some command) (hhelp : command ≠ .help) (hbare : IsBare name)
    {rest : List String} {found : Except Misuse Given}
    (hinner : inner env command rest = found.map (.run command)) (s : Given × Waiting) :
    readOuter env false s.1 s.2.pending (name :: rest) = found >>= fun inner =>
      s.1.settle s.2.pending >>= fun outer =>
        ((inner.orElse outer).fill env Choice.all).map (.run command) := by
  obtain ⟨g, w⟩ := s
  rw [readOuter.eq_def]
  simp only [if_neg Bool.false_ne_true]
  split
  · next heq => exact absurd heq (hbare _ _)
  · next heq => exact absurd heq (hbare _ _)
  · next heq => exact absurd heq (hbare _ _)
  · simp only [hname, hinner]
    -- What waits has its value, so the name is not taken for one.
    cases w
    all_goals
      cases command with
      | help => exact absurd rfl hhelp
      | serve | checkConfig | classify => cases found <;> rfl

theorem read_of_inner {name : String} {command : CommandName}
    (hname : commandNamed? name = some command) (hhelp : command ≠ .help) (hbare : IsBare name)
    {rest : List String} {found : Except Misuse Given}
    (hinner : inner env command rest = found.map (.run command)) :
    read env (argsOf front ++ name :: rest) =
      front.foldlM Flag.take (Given.nothing, none) >>= fun s => found >>= fun inner =>
        s.1.settle s.2.pending >>= fun outer =>
          ((inner.orElse outer).fill env Choice.all).map (.run command) := by
  have hfront : ∀ f ∈ front, f.choice.stands false = true := fun _ _ => rfl
  have hread := (readsOptions_outer env).flags (name :: rest) hfront (Given.nothing, none)
  rw [read, show readOuter env false .nothing none _ = _ from hread]
  exact bind_congr fun s => readOuter_command hname hhelp hbare hinner s

/-- **The same options, another command.** What a command is given hangs on the options alone. -/
theorem read_command {name : String} {command : CommandName}
    (hname : commandNamed? name = some command) (hhelp : command ≠ .help)
    (hclassify : command ≠ .classify) (hbare : IsBare name)
    (hback : ∀ f ∈ back, f.choice.stands true = true) :
    read env (argsOf front ++ name :: argsOf back) =
      (valuesOf env front back).map (.run command) := by
  rw [read_of_inner hname hhelp hbare (inner_of_flags hclassify hback), valuesOf]
  cases front.foldlM Flag.take (Given.nothing, none) with
  | error e => rfl
  | ok s =>
    cases behindOf env back with
    | error e => rfl
    | ok inner =>
      cases hsettle : s.1.settle s.2.pending with
      | error e => simp [hsettle, Except.map, bind, Except.bind]
      | ok outer => simp [hsettle, bind, Except.bind]

/-- The values that the other commands are given, with the address behind them. -/
theorem read_classify (a : Address) (hback : ∀ f ∈ back, f.choice.stands true = true) :
    read env (argsOf front ++ "classify" :: (argsOf back ++ [a.text])) =
      (valuesOf env front back).map fun g => .run .classify (g.withAddress a) := by
  have hinner : inner env .classify (argsOf back ++ [a.text]) =
      ((behindOf env back).map (·.withAddress a)).map (.run .classify) := by
    rw [inner_classify_of_flags a hback]
    cases behindOf env back <;> rfl
  rw [read_of_inner rfl (by decide) (isBare_of_head? (by decide)) hinner, valuesOf]
  cases front.foldlM Flag.take (Given.nothing, none) with
  | error e => rfl
  | ok s =>
    cases behindOf env back with
    | error e => rfl
    | ok inner =>
      cases hsettle : s.1.settle s.2.pending with
      | error e => simp [hsettle, Except.map, bind, Except.bind]
      | ok outer =>
        have horElse : (inner.withAddress a).orElse outer = (inner.orElse outer).withAddress a := rfl
        have hfill := fill_withAddress env a Choice.all (inner.orElse outer)
        cases hfilled : (inner.orElse outer).fill env Choice.all with
        | error e => simp [hsettle, horElse, hfill, hfilled, Except.map, bind, Except.bind]
        | ok g => simp [hsettle, horElse, hfill, hfilled, Except.map, bind, Except.bind]

end AccessBroker.CommandLine
