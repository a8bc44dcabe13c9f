/-
Settings from variables, from the file, and by default.

A setting that a variable names is read from the variable; one that none names is read from the file,
and has its default where the file says nothing of it (`load_layered`). A variable for one setting
leaves every other as it is. There is one exception to both: where the file gives the settings of a
group as a list, in their order, a variable for any of them hides the list as a whole
(`exists_load_list_ne`).
-/
import AccessBroker.Proofs.Broker.Basic
import AccessBroker.Proofs.Config.Load

namespace AccessBroker

open Datum Config

namespace Environment

variable {path : List String} {env : Environment} {n v : String}

/-! ## Variables that name settings -/

/-- The text of the variable that names a setting by its path. -/
def textOf? (env : Environment) (path : List String) : Option String :=
  (env.entries.find? fun e => pathOf? e.1 = some path).map Prod.snd

/-- Whether a variable names something in a group. -/
def names (env : Environment) (g : Group) : Bool :=
  (env.entries.find? fun e => (pathOf? e.1).bind List.head? = some g.key).isSome

/-- A path that leads to no setting, nor to any group. -/
def Foreign (path : List String) : Prop :=
  ∃ key rest, path = key :: rest ∧ key ∉ (Config.fields .setting).map Field.key

/-- The variables name scalar settings, each at most once; any others lead elsewhere. -/
structure NamesScalars (env : Environment) : Prop where
  scalar : ∀ e ∈ env.entries, ∀ path, pathOf? e.1 = some path →
    (∃ s : Setting, s.IsScalar ∧ path = s.path) ∨ Foreign path
  once : ∀ e ∈ env.entries, ∀ f ∈ env.entries, ∀ s : Setting,
    pathOf? e.1 = some s.path → pathOf? f.1 = some s.path → e = f

theorem textOf?_insert (hne : pathOf? n ≠ some path) (v : String) :
    textOf? (env.insert n v) path = textOf? env path := by
  rw [textOf?, textOf?, Store.Table.insert, Store.Table.find?_put (by simpa using hne)]

theorem names_insert {g : Group} (hne : (pathOf? n).bind List.head? ≠ some g.key) (v : String) :
    names (env.insert n v) g = names env g := by
  rw [names, names, Store.Table.insert, Store.Table.find?_put (by simpa using hne)]

theorem exists_mem_of_textOf? (h : textOf? env path = some v) :
    ∃ n, (n, v) ∈ env.entries ∧ pathOf? n = some path := by
  obtain ⟨e, hfind, rfl⟩ := Option.map_eq_some_iff.mp h
  exact ⟨e.1, List.mem_of_find?_eq_some hfind, by simpa using List.find?_some hfind⟩

theorem ne_of_textOf?_eq_none (h : textOf? env path = none) : ∀ e ∈ env.entries,
    pathOf? e.1 ≠ some path := by
  intro e he
  simpa using List.find?_eq_none.mp (Option.map_eq_none_iff.mp h) e he

/-! ## What the variables give -/

theorem not_gives_foldl_laidOver : ∀ {entries : List (String × String)} {d : Datum},
    (∀ e ∈ entries, ∀ other, pathOf? e.1 = some other → ¬Gives path (nested (valueOf e.2) other)) →
    IsKeyed d → ¬Gives path d → ¬Gives path (entries.foldl laidOver d)
  | [], _, _, _, hd => hd
  | e :: rest, d, hentries, hkeyed, hd => by
    have hnext : ¬Gives path (laidOver d e) := by
      rw [laidOver]
      split
      · next other hother =>
        exact not_gives_overlay ((isKeyed_valueOf e.2).nested other)
          (hentries e List.mem_cons_self other hother) hd
      · exact hd
    rw [List.foldl_cons]
    exact not_gives_foldl_laidOver (fun f hf => hentries f (List.mem_cons_of_mem e hf))
      (isKeyed_laidOver hkeyed e) hnext

/-- Where no variable gives anything, the variables together give nothing. -/
theorem not_gives_settings {key : String} (h : ∀ e ∈ env.entries, ∀ other,
    pathOf? e.1 = some other → ¬Gives (key :: path) (nested (valueOf e.2) other)) :
    ¬Gives (key :: path) env.settings := by
  rw [settings_eq]
  refine not_gives_foldl_laidOver h .empty ?_
  intro ⟨x, hlookup, _⟩
  cases hlookup

/-! ## Paths apart -/

theorem head_mem_keys (s : Setting) :
    ∃ key rest, s.path = key :: rest ∧ key ∈ (Config.fields .setting).map Field.key := by
  cases s with
  | version => exact ⟨_, _, rfl, by decide⟩
  | @member g m => exact ⟨_, _, rfl, g.key_mem⟩

/-- The path of a variable is that of a setting, or leads away from it. -/
theorem NamesScalars.apart (henv : env.NamesScalars) {e : String × String} (he : e ∈ env.entries)
    {other : List String} (hother : pathOf? e.1 = some other) {s : Setting} (hne : other ≠ s.path) :
    ¬s.path <+: other ∧ ¬other <+: s.path := by
  rcases henv.scalar e he other hother with ⟨t, -, rfl⟩ | ⟨key, rest, rfl, hkey⟩
  · exact ⟨fun h => hne (Setting.path_eq_of_isPrefix h).symm,
      fun h => hne (Setting.path_eq_of_isPrefix h)⟩
  · obtain ⟨first, tail, hpath, hfirst⟩ := head_mem_keys s
    rw [hpath, List.cons_prefix_cons, List.cons_prefix_cons]
    exact ⟨fun h => hkey (h.1 ▸ hfirst), fun h => hkey (h.1.symm ▸ hfirst)⟩

variable {s : Setting}

/-- A setting that a variable names is scalar. -/
theorem NamesScalars.isScalar (henv : env.NamesScalars) (h : env.textOf? s.path = some v) :
    s.IsScalar := by
  obtain ⟨n, hmem, hn⟩ := exists_mem_of_textOf? h
  rcases henv.scalar _ hmem _ hn with ⟨t, ht, hpath⟩ | ⟨key, rest, hpath, hkey⟩
  · rwa [Setting.path_injective hpath]
  · obtain ⟨first, tail, hfirst, hmem⟩ := head_mem_keys s
    rw [hfirst] at hpath
    exact absurd ((List.cons.inj hpath).1 ▸ hmem) hkey

/-- A setting that a variable names is given by it. -/
theorem NamesScalars.supplies (henv : env.NamesScalars) (h : env.textOf? s.path = some v) :
    Supplies (valueOf v) s.path env.settings := by
  obtain ⟨n, hmem, hn⟩ := exists_mem_of_textOf? h
  refine supplies_of_mem hn ?_ hmem
  intro e he hne other hother
  have hpath : other ≠ s.path := by
    intro heq
    rw [heq] at hother
    exact hne (congrArg Prod.fst (henv.once e he (n, v) hmem s hother hn))
  obtain ⟨hbefore, hafter⟩ := henv.apart he hother hpath
  exact not_gives_nested hbefore hafter _

/-- A setting that no variable names is given by none. -/
theorem NamesScalars.not_gives (henv : env.NamesScalars) (h : env.textOf? s.path = none) :
    ¬Gives s.path env.settings := by
  obtain ⟨key, rest, hpath, -⟩ := head_mem_keys s
  rw [hpath]
  refine not_gives_settings fun e he other hother => ?_
  have hne : other ≠ s.path := fun heq => ne_of_textOf?_eq_none h e he (heq ▸ hother)
  obtain ⟨hbefore, hafter⟩ := henv.apart he hother hne
  rw [← hpath]
  exact not_gives_nested hbefore hafter _

/-- A group that a variable names something in is given. -/
theorem NamesScalars.exists_lookup (henv : env.NamesScalars) {g : Group} (h : env.names g = true) :
    ∃ es x, env.settings = .table es ∧ es.lookup g.key = some x := by
  obtain ⟨e, hfind⟩ := Option.isSome_iff_exists.mp h
  have he := List.mem_of_find?_eq_some hfind
  obtain ⟨other, hother, hhead⟩ : ∃ other, pathOf? e.1 = some other ∧ other.head? = some g.key := by
    simpa [Option.bind_eq_some_iff] using List.find?_some hfind
  rcases henv.scalar e he other hother with ⟨t, -, rfl⟩ | ⟨key, rest, rfl, hkey⟩
  · cases htext : env.textOf? t.path with
    | none => exact absurd hother (ne_of_textOf?_eq_none htext e he)
    | some v =>
      obtain ⟨key, rest, hpath, -⟩ := head_mem_keys t
      have hsupplies := henv.supplies htext
      rw [hpath] at hsupplies hhead
      obtain ⟨es, x, hes, hlookup, -⟩ := hsupplies
      rw [List.head?_cons, Option.some.injEq] at hhead
      rw [hhead] at hlookup
      exact ⟨es, x, hes, hlookup⟩
  · rw [List.head?_cons, Option.some.injEq] at hhead
    exact absurd (hhead ▸ g.key_mem) hkey

/-- A group that no variable names anything in is given by none. -/
theorem NamesScalars.not_gives_group (henv : env.NamesScalars) {g : Group}
    (h : env.names g = false) : ¬Gives [g.key] env.settings := by
  refine not_gives_settings fun e he other hother => ?_
  have hhead : other.head? ≠ some g.key := by
    have hnone := Option.not_isSome_iff_eq_none.mp (Bool.eq_false_iff.mp h)
    simpa [hother] using List.find?_eq_none.mp hnone e he
  obtain ⟨key, rest, rfl⟩ : ∃ key rest, other = key :: rest := by
    rcases henv.scalar e he other hother with ⟨t, -, rfl⟩ | ⟨key, rest, rfl, -⟩
    · obtain ⟨key, rest, hpath, -⟩ := head_mem_keys t
      exact ⟨key, rest, hpath⟩
    · exact ⟨key, rest, rfl⟩
  have hkey : key ≠ g.key := by simpa using hhead
  refine not_gives_nested ?_ ?_ _
  · exact fun hprefix => hkey (List.cons_prefix_cons.mp hprefix).1.symm
  · exact fun hprefix => hkey (List.cons_prefix_cons.mp hprefix).1

end Environment

namespace Config

variable {s t : Setting} {env : Environment} {c : Config} {file : Option File} {d : Datum}
  {es : List (String × Datum)} {v : String}

/-! ## What is said of a setting -/

/-- Whether the entries give a group as a list. -/
def listsGroup (es : List (String × Datum)) (g : Group) : Bool :=
  match es.lookup g.key with
  | some (.list _) => true
  | _ => false

namespace Setting

/-- What is said of the setting: by the variable that names it, or else in the file. -/
def said? (s : Setting) (env : Environment) (es : List (String × Datum)) : Option Datum :=
  match env.textOf? s.path with
  | some v => some (Environment.valueOf v)
  | none => s.data? (.table es)

/-- Whether variables for others of the group hide a list in the file that it is in. -/
def isHidden : Setting → Environment → List (String × Datum) → Bool
  | version, _, _ => false
  | @member g m, env, es =>
    (env.textOf? (member m).path).isNone && env.names g && listsGroup es g

/-- What is seen of the setting. -/
def seen? (s : Setting) (env : Environment) (es : List (String × Datum)) : Option Datum :=
  if s.isHidden env es then none else s.said? env es

/-! ### Layers -/

theorem exists_data?_overlay (h : env.NamesScalars) (hs : env.textOf? s.path = some v) (d : Datum) :
    ∃ x, s.data? (overlay env.settings d) = some x ∧ Kin (Environment.valueOf v) x :=
  exists_data?_of_supplies ((h.supplies hs).overlay (Environment.isKeyed_settings env) d)

theorem data?_overlay (h : env.NamesScalars) (hs : env.textOf? s.path = none)
    (es : List (String × Datum)) : s.data? (overlay env.settings (.table es)) =
      if s.isHidden env es then none else s.data? (.table es) := by
  have hkeyed := Environment.isKeyed_settings env
  have hgives := h.not_gives hs
  cases s with
  | version => exact field?_overlay hkeyed hgives 0 _
  | @member g m =>
    rw [isHidden, hs, Option.isNone_none, Bool.true_and]
    cases hnames : env.names g with
    | false =>
      rw [data?, field?_overlay hkeyed (h.not_gives_group hnames)]
      rfl
    | true =>
      obtain ⟨ss, x, hss, hlookup⟩ := h.exists_lookup hnames
      rw [hss] at hkeyed hgives ⊢
      have hx : ¬Gives [m.key] x := fun hx => hgives ⟨x, hlookup, hx⟩
      have hmember := field?_overlay (hkeyed.of_lookup hlookup) hx m.index
      obtain ⟨xs, rfl, -⟩ := exists_table_of_not_gives hx
      have hnone := lookup_eq_none_of_not_gives hx
      rw [data?, data?, overlay, field?, field?, lookup_overlayEntries hkeyed.nodup, hlookup,
        listsGroup]
      cases hbelow : es.lookup g.key with
      | none => exact hnone
      | some y =>
        simp only [Option.bind_some, hmember]
        cases y <;> rfl

end Setting

/-! ## Loading -/

theorem Setting.data?_overlay_empty (s : Setting) (hkeyed : IsKeyed d) :
    s.data? (overlay d (.table [])) = s.data? d := by
  cases s with
  | version => exact field?_overlay_empty hkeyed _ _
  | member m => rw [data?, data?, field?_overlay_empty hkeyed]

/-- What is loaded is read from what the variables give, laid over the entries of the file. -/
theorem exists_readOr_of_load (h : load file env = .ok c) : ∃ es, entries? file = some es ∧
    ∀ s : Setting, ReadOr s.read (s.get default)
      (s.data? (overlay env.settings (.table es))) (s.get c) := by
  obtain ⟨es, hes, hbelow, hlayers⟩ := exists_entries h
  obtain ⟨hread, -⟩ := read_of_load (hlayers env) h
  refine ⟨es, hes, fun s => ?_⟩
  have hkeyed := Environment.isKeyed_settings env
  cases file with
  | none =>
    obtain rfl := Option.some.inj hes
    rw [s.data?_overlay_empty hkeyed]
    exact s.readOr_of_read hkeyed hread
  | some f => exact s.readOr_of_read (hkeyed.overlay hbelow) hread

/-- Every setting of a configuration that is loaded is what is seen of it, or its default. -/
theorem exists_readOr_seen (henv : env.NamesScalars) (h : load file env = .ok c) :
    ∃ es, entries? file = some es ∧ ∀ s : Setting,
      ReadOr s.read (s.get default) (s.seen? env es) (s.get c) := by
  obtain ⟨es, hes, hread⟩ := exists_readOr_of_load h
  refine ⟨es, hes, fun s => ?_⟩
  have hsetting := hread s
  cases htext : env.textOf? s.path with
  | none =>
    rw [Setting.data?_overlay henv htext] at hsetting
    rwa [Setting.seen?, Setting.said?, htext]
  | some v =>
    obtain ⟨x, hx, hkin⟩ := Setting.exists_data?_overlay henv htext (.table es)
    have hshown : s.isHidden env es = false := by
      cases s with
      | version => rfl
      | member m =>
        rw [Setting.isHidden, htext]
        rfl
    rw [hx] at hsetting
    rw [Setting.seen?, hshown, Setting.said?, htext]
    rcases hkin with rfl | ⟨-, xs, rfl⟩
    · exact hsetting
    · exact absurd hsetting ((henv.isScalar htext).read_table_ne xs _)

/-! ## Another variable -/

/-- A list that two settings of one group are in. -/
def ShareList (s t : Setting) (es : List (String × Datum)) : Prop :=
  ∃ (g : Group) (m m' : Member g), s = .member m ∧ t = .member m' ∧ listsGroup es g = true

theorem Setting.seen?_insert {n : String} (hn : Environment.pathOf? n = some t.path) (hne : s ≠ t)
    (hlist : ¬ShareList s t es) (v : String) : s.seen? (env.insert n v) es = s.seen? env es := by
  have hpath : Environment.pathOf? n ≠ some s.path := by
    rw [hn]
    exact fun h => hne (path_injective (Option.some.inj h)).symm
  have htext : Environment.textOf? (env.insert n v) s.path = env.textOf? s.path :=
    Environment.textOf?_insert hpath v
  have hhidden : s.isHidden (env.insert n v) es = s.isHidden env es := by
    cases s with
    | version => rfl
    | @member g m =>
      rw [isHidden, isHidden, htext]
      cases hgroup : listsGroup es g with
      | false => rw [Bool.and_false, Bool.and_false]
      | true =>
        rw [Environment.names_insert]
        rw [hn, Option.bind_some]
        cases t with
        | version => exact fun h => g.key_ne_version (Option.some.inj h).symm
        | @member g' m' =>
          intro h
          obtain rfl := Group.key_injective (Option.some.inj h)
          exact hlist ⟨_, m, m', rfl, rfl, hgroup⟩
  rw [seen?, seen?, hhidden, said?, said?, htext]

/-- **Settings in layers.** Where the variables name scalar settings, each at most once, every
setting of a configuration that is loaded is what its variable says, or else what the file says, or
else its default; and a further variable for one of them leaves every other as it is. But where the
file gives the settings of a group as a list, a variable for one of them hides the whole list: the
others that no variable names then have their defaults. -/
theorem load_layered (henv : env.NamesScalars) (hc : load file env = .ok c) :
    ∃ es, entries? file = some es ∧
      (∀ s : Setting, ReadOr s.read (s.get default) (s.seen? env es) (s.get c)) ∧
      ∀ {n v : String} {t : Setting} {c' : Config}, Environment.pathOf? n = some t.path →
        Environment.NamesScalars (env.insert n v) → load file (env.insert n v) = .ok c' →
        ∀ s, s ≠ t → ¬ShareList s t es → s.get c' = s.get c := by
  obtain ⟨es, hes, hread⟩ := exists_readOr_seen henv hc
  refine ⟨es, hes, hread, ?_⟩
  intro n v t c' hn henv' hc' s hne hlist
  obtain ⟨es', hes', hread'⟩ := exists_readOr_seen henv' hc'
  obtain rfl := Option.some.inj (hes.symm.trans hes')
  have hsetting := hread' s
  rw [Setting.seen?_insert hn hne hlist] at hsetting
  exact hsetting.unique (hread s)

/-- A file that gives the host, and the secrets. -/
def hostFile : File := ⟨"hauth.yaml",
  some "server: \x7bhost: 10.0.0.1\x7d\ncookie: [word, salt]\nexternal: [key]\n"⟩

/-- The same settings of the server, and more of them, as a list. -/
def listFile : File := ⟨"hauth.yaml",
  some "server: [10.0.0.1, 8080, true, 5]\ncookie: [word, salt]\nexternal: [key]\n"⟩

/-- A configuration with the secrets of the files. -/
def servedBy (server : ServerConfig) : Config :=
  { ofSecrets "word" "salt" "key" with server }

/-- The variables with one for the port. -/
def portVariable : Environment := Store.Table.empty.insert "HAUTH_SERVER__PORT" "9000"

theorem namesScalars_empty : Environment.NamesScalars Store.Table.empty where
  scalar _ he := absurd he List.not_mem_nil
  once _ he := absurd he List.not_mem_nil

theorem pathOf?_port :
    Environment.pathOf? "HAUTH_SERVER__PORT" = some (Setting.member .port).path := by
  decide

theorem namesScalars_portVariable : portVariable.NamesScalars where
  scalar e he path hpath := by
    rw [List.mem_singleton.mp he, pathOf?_port] at hpath
    exact .inl ⟨.member .port, trivial, (Option.some.inj hpath).symm⟩
  once e he f hf s _ _ := (List.mem_singleton.mp he).trans (List.mem_singleton.mp hf).symm

theorem load_portVariable (file : Option File) : load file portVariable =
    loadOver file (overlay (nested (.whole 9000) (Setting.member .port).path) (.table [])) := by
  have hvalue : Environment.valueOf "9000" = .whole 9000 := Environment.valueOf_of_core? (by decide)
    (Environment.core?_of_isNumeral _ (Text.forall_mem_of_all (by decide))) rfl
  exact load_insert_empty file pathOf?_port hvalue

/-- A variable for the port leaves the host of the file as it is. -/
theorem load_layered_port : Environment.NamesScalars Store.Table.empty ∧
    load (some hostFile) .empty = .ok (servedBy ⟨"10.0.0.1", 8888, false, 30⟩) ∧
    portVariable.NamesScalars ∧
    load (some hostFile) portVariable = .ok (servedBy ⟨"10.0.0.1", 9000, false, 30⟩) ∧
    (∃ es, entries? (some hostFile) = some es ∧
      ¬ShareList (.member .host) (.member .port) es) ∧
    (Setting.member .host).get (servedBy ⟨"10.0.0.1", 9000, false, 30⟩) =
      (Setting.member .host).get (servedBy ⟨"10.0.0.1", 8888, false, 30⟩) := by
  have hempty : load (some hostFile) .empty = .ok (servedBy ⟨"10.0.0.1", 8888, false, 30⟩) :=
    Broker.eq_ok_of_toOption (by decide +kernel)
  have hport : load (some hostFile) portVariable =
      .ok (servedBy ⟨"10.0.0.1", 9000, false, 30⟩) := by
    rw [load_portVariable]
    exact Broker.eq_ok_of_toOption (by decide +kernel)
  obtain ⟨es, hes, -, hframe⟩ := load_layered namesScalars_empty hempty
  have hnone : ((entries? (some hostFile)).map fun es => listsGroup es .server) = some false := by
    decide +kernel
  have hlist : ¬ShareList (.member .host) (.member .port) es := by
    intro ⟨g, m, m', hm, _, hgroup⟩
    obtain ⟨rfl, -⟩ := Setting.member.inj hm
    rw [hes, Option.map_some, hgroup] at hnone
    cases hnone
  exact ⟨namesScalars_empty, hempty, namesScalars_portVariable, hport, ⟨es, hes, hlist⟩,
    hframe pathOf?_port namesScalars_portVariable hport _ (by simp) hlist⟩

/-- Where the file gives a list, a variable for the port takes the host that is said back to the
default. -/
theorem exists_load_list_ne : portVariable.NamesScalars ∧
    load (some listFile) .empty = .ok (servedBy ⟨"10.0.0.1", 8080, true, 5⟩) ∧
    load (some listFile) portVariable = .ok (servedBy ⟨"0.0.0.0", 9000, false, 30⟩) ∧
    ∃ es, entries? (some listFile) = some es ∧
      ¬ReadOr (Setting.member .host).read ((Setting.member .host).get default)
        ((Setting.member .host).said? portVariable es)
        ((Setting.member .host).get (servedBy ⟨"0.0.0.0", 9000, false, 30⟩)) := by
  have hempty : load (some listFile) .empty = .ok (servedBy ⟨"10.0.0.1", 8080, true, 5⟩) :=
    Broker.eq_ok_of_toOption (by decide +kernel)
  have hport : load (some listFile) portVariable =
      .ok (servedBy ⟨"0.0.0.0", 9000, false, 30⟩) := by
    rw [load_portVariable]
    exact Broker.eq_ok_of_toOption (by decide +kernel)
  refine ⟨namesScalars_portVariable, hempty, hport, ?_⟩
  have hsaid : ((entries? (some listFile)).bind fun es =>
      ((Setting.member .host).said? portVariable es).bind fun d => (readText d).toOption) =
      some "10.0.0.1" := by
    decide +kernel
  obtain ⟨es, hes, hhost⟩ := Option.bind_eq_some_iff.mp hsaid
  obtain ⟨d, hd, hread⟩ := Option.bind_eq_some_iff.mp hhost
  refine ⟨es, hes, ?_⟩
  intro hor
  rw [hd] at hor
  have hdefault : readText d = .ok "0.0.0.0" := hor
  rw [hdefault] at hread
  exact absurd (Option.some.inj hread) (by decide)

end Config

end AccessBroker
