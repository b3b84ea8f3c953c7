import StreamLoad.Proofs.CommandLine.Fields
import StreamLoad.Proofs.CommandLine.Groups

/-! # Flags over variables over defaults

A command line that is carried out says of each field what the group of its flag says, after the
mode before the one before it. What it leaves open the variable of the field decides, and what
both leave open is the default. A field has no other source, and the order of the groups after
the mode has no part in it.
-/

set_option autoImplicit false

namespace StreamLoad

/-- The environment without a variable. -/
def Environment.unset (env : Environment) (name : String) : Environment :=
  { bindings := env.bindings.filter fun binding => binding.1 ≠ name }

theorem Environment.lookup_unset (env : Environment) (name other : String) :
    (env.unset name).bindings.lookup other
      = if other = name then none else env.bindings.lookup other := by
  obtain ⟨bindings⟩ := env
  induction bindings with
  | nil => simp [unset]
  | cons binding bindings ih =>
      obtain ⟨key, bytes⟩ := binding
      simp only [unset] at ih ⊢
      by_cases mine : key = name
      · subst mine
        rw [List.filter_cons_of_neg (by simp), ih]
        by_cases asked : other = key
        · rw [if_pos asked, if_pos asked]
        · rw [if_neg asked, if_neg asked, List.lookup_cons, beq_false_of_ne asked]
      · rw [List.filter_cons_of_pos (by simpa using mine), List.lookup_cons, List.lookup_cons, ih]
        by_cases asked : other = key
        · subst asked
          simp only [beq_self_eq_true, if_neg mine]
        · rw [beq_false_of_ne asked]

namespace CommandLine

/-! ## What groups say of a field

A flag occurs on a level at most once, and so a level says at most one thing of a field. Both levels
may say something, and then the inner one, which comes later, counts. -/

namespace Field

variable {mode : Option Mode} {groups groups' : List Group} {g : Group}

/-- What a variable says depends on its bytes. -/
theorem inEnvironment?_congr (f : Field) {env env' : Environment}
    (same : env.bindings.lookup f.variableName = env'.bindings.lookup f.variableName) :
    f.inEnvironment? env = f.inEnvironment? env' := by
  rw [inEnvironment?, inEnvironment?, Environment.read?, Environment.read?, Environment.text?,
    Environment.text?, same]

/-- Without its variable a field is left open, and the others are as before. -/
theorem inEnvironment?_unset (f f' : Field) (env : Environment) :
    f.inEnvironment? (env.unset f'.variableName)
      = if f = f' then none else f.inEnvironment? env := by
  by_cases same : f = f'
  · subst same
    rw [if_pos rfl, inEnvironment?, Environment.read?, Environment.text?,
      Environment.lookup_unset, if_pos rfl]
    rfl
  · rw [if_neg same]
    refine inEnvironment?_congr f ?_
    rw [Environment.lookup_unset, if_neg fun names => same (variableName_injective names)]

/-- What a group says of a field. -/
def gives? (f : Field) (g : Group) : Option f.Value := g.override?.bind f.given?

/-- A group that says something of a field is one of its flag. -/
theorem flag?_of_gives? {f : Field} (gives : (f.gives? g).isSome = true) :
    f.flag?.isSome = true ∧ g.flag? = f.flag? := by
  obtain ⟨value, gives⟩ := Option.isSome_iff_exists.mp gives
  obtain ⟨o, reads, given⟩ := Option.bind_eq_some_iff.mp gives
  have own : f.flag? = some o.flag := (f.given?_isSome_iff o).mp (by rw [given, Option.isSome_some])
  rw [own, Group.flag?_of_override? reads]
  exact ⟨Option.isSome_some, rfl⟩

/-- A group that may stand on a level says something of the field of its flag. -/
theorem gives?_isSome_iff (f : Field) (fits : g.Fits mode) :
    (f.gives? g).isSome = true ↔ f.flag?.isSome = true ∧ g.flag? = f.flag? := by
  refine ⟨flag?_of_gives?, ?_⟩
  rintro ⟨flagged, own⟩
  obtain ⟨flag, named⟩ := Option.isSome_iff_exists.mp flagged
  obtain ⟨o, reads⟩ := fits.override?_isSome (own.trans named)
  rw [gives?, reads, Option.bind_some, given?_isSome_iff, ← own]
  exact Group.flag?_of_override? reads

/-- Groups that may stand together say one thing of a field at most. -/
theorem filterMap_gives? (f : Field) (fit : FitTogether mode groups) :
    groups.filterMap f.gives? = (groups.findSome? f.gives?).toList := by
  induction groups with
  | nil => rfl
  | cons g groups ih =>
      obtain ⟨new, once⟩ := List.nodup_cons.mp fit.once
      have rest : FitTogether mode groups :=
        ⟨fun x hx => fit.fits x (List.mem_cons_of_mem g hx), once⟩
      cases gives : f.gives? g with
      | none => rw [List.filterMap_cons_none gives, List.findSome?_cons, gives, ih rest]
      | some value =>
          have own := flag?_of_gives? (by rw [gives, Option.isSome_some])
          have others : groups.filterMap f.gives? = [] := by
            -- Another group that says something of the field would be one of the same flag.
            rw [List.filterMap_eq_nil_iff]
            intro x hx
            by_contra more
            have also_own := flag?_of_gives? (Option.isSome_iff_ne_none.mpr more)
            exact new (List.mem_map.mpr ⟨x, hx, also_own.2.trans own.2.symm⟩)
          rw [List.filterMap_cons_some gives, others, List.findSome?_cons, gives, Option.toList_some]

/-- What groups say of a field does not depend on their order. -/
theorem findSome?_gives?_perm (f : Field) (fit : FitTogether mode groups)
    (same : groups.Perm groups') : groups'.findSome? f.gives? = groups.findSome? f.gives? := by
  have reordered := same.filterMap f.gives?
  rw [f.filterMap_gives? fit, f.filterMap_gives? (fit.perm same)] at reordered
  cases given : groups.findSome? f.gives? with
  | none =>
      rw [given, Option.toList_none] at reordered
      exact Option.toList_eq_nil_iff.mp reordered.nil_eq.symm
  | some value =>
      rw [given, Option.toList_some] at reordered
      exact Option.toList_eq_singleton_iff.mp reordered.singleton_eq.symm

end Field

namespace Line

variable {line line' : Line}

/-- What the flags of a command line say of a field. -/
def given? (line : Line) (f : Field) : Option f.Value :=
  (line.inner.findSome? f.gives?).or (line.outer.findSome? f.gives?)

/-- What counts is what the last group says. -/
theorem given?_eq_getLast? (fits : line.Fits) (f : Field) :
    line.given? f = (line.groups.filterMap f.gives?).getLast? := by
  rw [groups, List.filterMap_append, f.filterMap_gives? fits.outer, f.filterMap_gives? fits.inner,
    given?]
  cases line.inner.findSome? f.gives? <;> cases line.outer.findSome? f.gives? <;> rfl

theorem filterMap_overrides (line : Line) (f : Field) :
    line.invocation.overrides.filterMap f.given? = line.groups.filterMap f.gives? :=
  List.filterMap_filterMap

/-- The flags of a command line say something of a field exactly if one of them is its own. -/
theorem given?_isSome_iff (fits : line.Fits) (f : Field) :
    (line.given? f).isSome = true
      ↔ f.flag?.isSome = true ∧ ∃ g ∈ line.groups, g.flag? = f.flag? := by
  have each : ∀ g ∈ line.groups,
      ((f.gives? g).isSome = true ↔ f.flag?.isSome = true ∧ g.flag? = f.flag?) := by
    intro g hg
    rcases List.mem_append.mp hg with before | after
    · exact f.gives?_isSome_iff (fits.outer.fits g before)
    · exact f.gives?_isSome_iff (fits.inner.fits g after)
  have some_group : (line.given? f).isSome = true
      ↔ ∃ g ∈ line.groups, (f.gives? g).isSome = true := by
    rw [given?_eq_getLast? fits, Option.isSome_iff_ne_none, Ne, List.getLast?_eq_none_iff,
      List.filterMap_eq_nil_iff]
    simp only [not_forall, Option.isSome_iff_ne_none, exists_prop, ne_eq]
  rw [some_group]
  constructor
  · rintro ⟨g, hg, gives⟩
    obtain ⟨flagged, own⟩ := (each g hg).mp gives
    exact ⟨flagged, g, hg, own⟩
  · rintro ⟨flagged, g, hg, own⟩
    exact ⟨g, hg, (each g hg).mpr ⟨flagged, own⟩⟩

/-- The groups of the flag of a field. -/
def groupsFor (line : Line) (f : Field) : List Group :=
  line.groups.filter fun g => f.flag?.isSome && g.flag? = f.flag?

/-- What the flags of a command line say of a field depends on the groups of its own flag. -/
theorem given?_congr (fits : line.Fits) (fits' : line'.Fits) (f : Field)
    (same : line'.groupsFor f = line.groupsFor f) : line'.given? f = line.given? f := by
  have own (l : Line) : (l.groupsFor f).filterMap f.gives? = l.groups.filterMap f.gives? := by
    rw [groupsFor, List.filterMap_filter]
    refine List.filterMap_congr fun g _ => ?_
    split
    · rfl
    · next other =>
        cases gives : f.gives? g with
        | none => rfl
        | some value =>
            have mine := Field.flag?_of_gives? (by rw [gives, Option.isSome_some])
            exact absurd (by simpa using mine) other
  rw [given?_eq_getLast? fits, given?_eq_getLast? fits', ← own, ← own, same]

/-- The groups after the mode may stand in any order. -/
theorem Fits.reorder (fits : line.Fits) {inner : List Group} (same : line.inner.Perm inner) :
    { line with inner := inner }.Fits :=
  ⟨fits.outer, fits.inner.perm same⟩

/-- What the flags say does not depend on the order of the groups after the mode. -/
theorem Fits.given?_reorder (fits : line.Fits) {inner : List Group} (same : line.inner.Perm inner)
    (f : Field) : { line with inner := inner }.given? f = line.given? f := by
  rw [given?, given?, f.findSome?_gives?_perm fits.inner same]

/-- **Three layers.** A field holds what its flag says, or what its variable says, or the
default. -/
theorem Fits.get_settings (fits : line.Fits) (f : Field) (env : Environment) :
    f.get (line.invocation.settings env)
      = (line.given? f).getD ((f.inEnvironment? env).getD f.default) := by
  rw [Field.get_settings, filterMap_overrides, given?_eq_getLast? fits]

end Line

theorem Invocation.ofWords_words {line : Line} (fits : line.Fits) :
    ofWords line.words = .ok line.invocation :=
  ofWords_eq_ok_iff.mpr ⟨line, fits, rfl, rfl⟩

/-- **The layers of the settings.** A command line that is carried out is one of groups, each a
flag that may stand where it stands. A field then holds what its flag says, after the mode before
the one before it; or else what its variable says, if it reads as a value of the field; or else
the default. So it depends on the groups of its own flag and on the bytes of its own variable, a
variable that does not read as a value might as well not be set, and the groups after the mode may
stand in any order. -/
theorem Invocation.settings_layered {words : List (List UInt8)} {i : Invocation}
    (accepted : ofWords words = .ok i) :
    (∃ line : Line, line.Fits ∧ line.words = words)
      ∧ ∀ line : Line, line.Fits → line.words = words →
        (∀ (f : Field) (env : Environment),
          f.get (i.settings env) = (line.given? f).getD ((f.inEnvironment? env).getD f.default))
        ∧ (∀ f : Field, (line.given? f).isSome = true
          ↔ f.flag?.isSome = true ∧ ∃ g ∈ line.groups, g.flag? = f.flag?)
        ∧ (∀ (f : Field) (env : Environment), f.inEnvironment? env = none →
          i.settings (env.unset f.variableName) = i.settings env)
        ∧ (∀ (f : Field) (env env' : Environment),
          env'.bindings.lookup f.variableName = env.bindings.lookup f.variableName →
          f.get (i.settings env') = f.get (i.settings env))
        ∧ (∀ (f : Field) (line' : Line), line'.Fits → line'.groupsFor f = line.groupsFor f →
          ∀ env : Environment,
            f.get (line'.invocation.settings env) = f.get (i.settings env))
        ∧ ∀ inner : List Group, line.inner.Perm inner →
          ∃ i', ofWords { line with inner := inner }.words = .ok i'
            ∧ i'.mode = i.mode ∧ i'.jsonLogs = i.jsonLogs
            ∧ ∀ env : Environment, i'.settings env = i.settings env := by
  constructor
  · obtain ⟨line, fits, written, -⟩ := ofWords_eq_ok_iff.mp accepted
    exact ⟨line, fits, written⟩
  intro line fits written
  obtain rfl : line.invocation = i := by
    rw [← written, ofWords_words fits] at accepted
    exact Except.ok.inj accepted
  refine ⟨fits.get_settings, line.given?_isSome_iff fits, ?_, ?_, ?_, ?_⟩
  · intro f env unread
    refine Field.ext_get fun f' => ?_
    rw [fits.get_settings, fits.get_settings, Field.inEnvironment?_unset]
    split
    · next same => rw [same, unread]
    · rfl
  · intro f env env' same
    rw [fits.get_settings, fits.get_settings, f.inEnvironment?_congr same]
  · intro f line' fits' same env
    rw [fits.get_settings, fits'.get_settings, Line.given?_congr fits fits' f same]
  · intro inner same
    have fits' := fits.reorder same
    refine ⟨_, ofWords_words fits', rfl, ?_, ?_⟩
    · show decide (_ ∈ line.outer ++ inner) = decide (_ ∈ line.outer ++ line.inner)
      simp only [List.mem_append, same.mem_iff]
    · intro env
      refine Field.ext_get fun f => ?_
      rw [fits.get_settings, fits'.get_settings, fits.given?_reorder same]

/-- The command line `bench --pool-size=3 --message hi`. -/
def Line.greetThree : Line :=
  { outer := []
    mode := .bench
    inner := [.joined .poolSize (Text.utf8 "3"), .parted .message (Text.utf8 "hi")]
    escaped := false }

theorem Line.fits_greetThree : greetThree.Fits := by
  refine ⟨.nil, ?_, by decide⟩
  intro g hg
  rcases List.mem_cons.mp hg with rfl | hg
  · exact ⟨rfl, .poolSize 3, by decide +kernel⟩
  · rw [List.mem_singleton.mp hg]
    exact ⟨rfl, ⟨.message "hi", by decide +kernel⟩, by decide +kernel⟩

/-- The two flags of `bench --pool-size=3 --message hi` decide their fields in every environment,
also the other way round; the port is left to its variable. -/
theorem Invocation.settings_layered_greetThree :
    ∃ i i', ofWords (["bench", "--pool-size=3", "--message", "hi"].map Text.utf8) = .ok i
      ∧ ofWords (["bench", "--message", "hi", "--pool-size=3"].map Text.utf8) = .ok i'
      ∧ ∀ env : Environment, Field.poolSize.get (i.settings env) = (3 : Nat)
        ∧ Field.message.get (i.settings env) = "hi"
        ∧ Field.port.get (i.settings env)
          = (Field.port.inEnvironment? env).getD (8080 : Nat)
        ∧ i'.settings env = i.settings env := by
  have accepted : ofWords Line.greetThree.words = .ok Line.greetThree.invocation := by
    decide +kernel
  obtain ⟨layers, -, -, -, -, reorder⟩ :=
    (settings_layered accepted).2 Line.greetThree Line.fits_greetThree rfl
  obtain ⟨i', read, -, -, same⟩ := reorder [.parted .message (Text.utf8 "hi"),
    .joined .poolSize (Text.utf8 "3")] (List.Perm.swap _ _ [])
  have members : Line.greetThree.given? .poolSize = @some (Field.Value .poolSize) (3 : Nat) := by
    decide +kernel
  have message : Line.greetThree.given? .message = @some (Field.Value .message) "hi" := by
    decide +kernel
  have port : Line.greetThree.given? .port = none := by decide +kernel
  refine ⟨_, i', accepted, read, fun env => ⟨?_, ?_, ?_, same env⟩⟩
  · rw [layers, members]
    rfl
  · rw [layers, message]
    rfl
  · rw [layers, port]
    rfl

end CommandLine

end StreamLoad
