import TypedRequests.Command.Run

/-!
# What commands read first

A command reads the settings, the templates in them and the document, and only then touches a file.
Here is what it reads, as a function of the disk, and what can be wrong with it, whichever readers
it has for the texts.

* `Disk.HasSettings` : the settings that are in force on a disk.
* `Command.Hindered` : what can be wrong before a file is touched, in whatever order it is found.
* `Command.opening` : what a command reads and finds, with the first error.
* `Settings.context_eq_ok` : when settings suffice for a run.
* `Command.hindered_iff` : a command is hindered exactly if its opening fails.
-/

set_option autoImplicit false

namespace TypedRequests

open OpenApi Request

/-! ## Causes -/

/-- The location of the document of a command. -/
def Command.location : Command → String
  | .fetch location _ => location
  | .model location _ => location
  | .generate location _ _ _ => location

namespace Disk

/-- The settings of this file are needed: it was asked for, or it is the usual one and is there. -/
def NeedsSettings (d : Disk) (file : Option Path) : Prop :=
  file = none → d.kind? defaultSettingsFile ≠ none

/-- The settings in force: those of the file, or the empty ones. -/
inductive HasSettings (d : Disk) (readers : Readers) (file : Option Path) : Settings → Prop where
  | absent (hfile : file = none) (h : d.kind? defaultSettingsFile = none) :
      HasSettings d readers file .empty
  | given {text : String} {table : Toml} {s : Settings} (hneeds : d.NeedsSettings file)
      (htext : d.read (file.getD defaultSettingsFile) = .ok text)
      (htable : readers.toml? text = some table) (hs : Settings.ofToml table = .ok s) :
      HasSettings d readers file s

end Disk

/-- The templates of settings, each with the name of its setting. -/
def Settings.templates (s : Settings) : List (String × String) :=
  (s.template.map fun text => ("template", text)).toList
    ++ (s.codeHook.map fun text => ("output", text)).toList
    ++ (s.pathHook.map fun text => ("rewrite", text)).toList

/-- Something is wrong with what a command reads before it touches a file. Several things may be
wrong at once. -/
inductive Command.Hindered (readers : Readers) (d : Disk) : Command → Prop where
  | settingsUnreadable {location : String} {dir model file : Option Path} {e : FileError}
      (hneeds : d.NeedsSettings file) (h : d.read (file.getD defaultSettingsFile) = .error e) :
      Hindered readers d (.generate location dir model file)
  | settingsText {location text : String} {dir model file : Option Path}
      (hneeds : d.NeedsSettings file) (htext : d.read (file.getD defaultSettingsFile) = .ok text)
      (h : readers.toml? text = none) : Hindered readers d (.generate location dir model file)
  | settingsValue {location text : String} {dir model file : Option Path} {table : Toml}
      {e : ConfigError} (hneeds : d.NeedsSettings file)
      (htext : d.read (file.getD defaultSettingsFile) = .ok text)
      (htable : readers.toml? text = some table) (h : Settings.ofToml table = .error e) :
      Hindered readers d (.generate location dir model file)
  | templateMissing {location : String} {dir model file : Option Path} {s : Settings}
      (hs : d.HasSettings readers file s) (h : s.template = none) :
      Hindered readers d (.generate location dir model file)
  | templateInvalid {location key text : String} {dir model file : Option Path} {s : Settings}
      (hs : d.HasSettings readers file s) (hkey : (key, text) ∈ s.templates)
      (h : readers.template? key text = none) :
      Hindered readers d (.generate location dir model file)
  | dirMissing {location : String} {model file : Option Path} {s : Settings}
      (hs : d.HasSettings readers file s) (h : s.dir = none) :
      Hindered readers d (.generate location none model file)
  | documentUnreadable {c : Command} {e : FileError} (h : d.read ⟨c.location⟩ = .error e) :
      Hindered readers d c
  | valueText {location text : String} {output : Option Path}
      (htext : d.read ⟨location⟩ = .ok text) (h : readers.value? location text = none) :
      Hindered readers d (.fetch location output)
  | modelDocument {location text : String} {output : Path} {e : DocumentError}
      (htext : d.read ⟨location⟩ = .ok text) (h : readers.document location text = .error e) :
      Hindered readers d (.model location output)
  | runDocument {location text : String} {dir model file : Option Path} {e : DocumentError}
      (htext : d.read ⟨location⟩ = .ok text) (h : readers.document location text = .error e) :
      Hindered readers d (.generate location dir model file)
  | noSchemas {location text : String} {output : Path} {doc : Document}
      (htext : d.read ⟨location⟩ = .ok text) (hdoc : readers.document location text = .ok doc)
      (h : doc.schemas? = none) : Hindered readers d (.model location output)

/-- The error tells of something that was read, not of something that was to be written. -/
def CommandError.IsEarly : CommandError → Prop
  | .generate _ | .unwritable .. => False
  | .model e => e = GenerateError.document .noSchemas
  | _ => True

/-! ## Openings -/

namespace Disk

variable (d : Disk) (readers : Readers)

/-- The text at a location on this machine. -/
def textAt (location : String) : Except CommandError String :=
  (d.read ⟨location⟩).mapError (.unreadable ⟨location⟩)

/-- The document at a location on this machine. -/
def documentAt (location : String) : Except CommandError Document := do
  let text ← d.textAt location
  (readers.document location text).mapError .document

/-- The settings in a file. -/
def settingsIn (p : Path) : Except CommandError Settings := do
  let text ← (d.read p).mapError (.unreadable p)
  match readers.toml? text with
  | some table => (Settings.ofToml table).mapError (.settingsValue p)
  | none => .error (.settingsText p)

/-- The settings in a file, which has to be there if it was asked for. -/
def settingsAt (file : Option Path) : Except CommandError Settings :=
  if file.isNone && (d.kind? (file.getD defaultSettingsFile)).isNone then .ok .empty
  else d.settingsIn readers (file.getD defaultSettingsFile)

end Disk

/-- What a command reads before it touches a file, with the first error. -/
def Command.opening (readers : Readers) (d : Disk) : Command → Except CommandError Unit
  | .fetch location _ => do
    let text ← d.textAt location
    if (readers.value? location text).isNone then .error .documentText else .ok ()
  | .model location _ => do
    let doc ← d.documentAt readers location
    if doc.schemas?.isNone then .error (.model (.document .noSchemas)) else .ok ()
  | .generate location dir modelFile file => do
    let settings ← d.settingsAt readers file
    let _ ← ((settings.override dir modelFile).context readers).mapError .settings
    let _ ← d.documentAt readers location
    .ok ()

/-! ## What openings find -/

namespace Disk

variable {d : Disk} {readers : Readers} {file : Option Path}

theorem settingsAt_of_needs (h : d.NeedsSettings file) :
    d.settingsAt readers file = d.settingsIn readers (file.getD defaultSettingsFile) := by
  unfold settingsAt
  rw [if_neg]
  cases file with
  | none => simpa using h rfl
  | some p => simp

theorem settingsAt_of_absent (hfile : file = none) (h : d.kind? defaultSettingsFile = none) :
    d.settingsAt readers file = .ok .empty := by
  subst hfile
  simp [settingsAt, h]

/-- The settings are not needed, or they are. -/
theorem absent_or_needs (d : Disk) (file : Option Path) :
    (file = none ∧ d.kind? defaultSettingsFile = none) ∨ d.NeedsSettings file := by
  by_cases h : file = none ∧ d.kind? defaultSettingsFile = none
  · exact .inl h
  · exact .inr fun hfile hkind => h ⟨hfile, hkind⟩

theorem settingsIn_eq_ok {p : Path} {s : Settings} : d.settingsIn readers p = .ok s ↔
    ∃ text table, d.read p = .ok text ∧ readers.toml? text = some table ∧
      Settings.ofToml table = .ok s := by
  unfold settingsIn
  rw [bind_eq_ok]
  simp only [mapError_eq_ok]
  constructor
  · rintro ⟨text, htext, h⟩
    cases htable : readers.toml? text with
    | none => simp [htable] at h
    | some table => exact ⟨text, table, htext, htable, mapError_eq_ok.1 (by simpa [htable] using h)⟩
  · rintro ⟨text, table, htext, htable, hs⟩
    exact ⟨text, htext, by simp [htable, hs, mapError_ok]⟩

/-- **The settings that are read are those in force.** -/
theorem settingsAt_eq_ok {s : Settings} :
    d.settingsAt readers file = .ok s ↔ d.HasSettings readers file s := by
  constructor
  · intro h
    rcases d.absent_or_needs file with ⟨hfile, hkind⟩ | hneeds
    · rw [settingsAt_of_absent hfile hkind] at h
      cases h
      exact .absent hfile hkind
    · rw [settingsAt_of_needs hneeds] at h
      obtain ⟨text, table, htext, htable, hs⟩ := settingsIn_eq_ok.1 h
      exact .given hneeds htext htable hs
  · rintro (⟨hfile, hkind⟩ | ⟨hneeds, htext, htable, hs⟩)
    · exact settingsAt_of_absent hfile hkind
    · rw [settingsAt_of_needs hneeds]
      exact settingsIn_eq_ok.2 ⟨_, _, htext, htable, hs⟩

/-- Settings that are needed stand in their file. -/
theorem HasSettings.read_of_needs {s : Settings} (h : d.HasSettings readers file s)
    (hneeds : d.NeedsSettings file) :
    ∃ text table, d.read (file.getD defaultSettingsFile) = .ok text ∧
      readers.toml? text = some table ∧ Settings.ofToml table = .ok s := by
  cases h with
  | absent hfile hkind => exact absurd hkind (hneeds hfile)
  | given _ htext htable hs => exact ⟨_, _, htext, htable, hs⟩

/-- At most one file of settings is in force. -/
theorem HasSettings.unique {s s' : Settings} (h : d.HasSettings readers file s)
    (h' : d.HasSettings readers file s') : s = s' :=
  Except.ok.inj ((settingsAt_eq_ok.2 h).symm.trans (settingsAt_eq_ok.2 h'))

theorem textAt_eq_ok {location text : String} :
    d.textAt location = .ok text ↔ d.read ⟨location⟩ = .ok text :=
  mapError_eq_ok

theorem documentAt_eq_ok {location : String} {doc : Document} :
    d.documentAt readers location = .ok doc ↔
      ∃ text, d.read ⟨location⟩ = .ok text ∧ readers.document location text = .ok doc := by
  unfold documentAt
  simp only [bind_eq_ok, textAt_eq_ok, mapError_eq_ok]

end Disk

namespace Settings

variable {readers : Readers}

theorem templateOf_eq_ok {key text : String} :
    (∃ t, readers.templateOf key text = .ok t) ↔ readers.template? key text ≠ none := by
  unfold Readers.templateOf
  cases readers.template? key text <;> simp

theorem hook_eq_ok (key name : String) (text : Option String) :
    (∃ h, hook readers key name text = .ok h) ↔
      ∀ s, text = some s → readers.template? key s ≠ none := by
  cases text with
  | none => simp [hook]
  | some s =>
    cases h : readers.template? key s <;> simp [hook, Readers.templateOf, h, Except.map]

/-- **Settings suffice for a run** if there is a template, all templates can be read, and there is a
directory. -/
theorem context_eq_ok {s : Settings} : (∃ r, s.context readers = .ok r) ↔
    s.template ≠ none ∧
      (∀ key text, (key, text) ∈ s.templates → readers.template? key text ≠ none) ∧
        s.dir ≠ none := by
  constructor
  · rintro ⟨r, h⟩
    unfold context at h
    cases htemplate : s.template with
    | none => simp [htemplate, throw, throwThe, MonadExceptOf.throw] at h
    | some text =>
      simp only [htemplate, bind_eq_ok] at h
      obtain ⟨t, ht, code, hcode, path, hpath, layout, hlayout, -⟩ := h
      have hdir : s.dir ≠ none := by
        intro hdir
        simp [OutputLayout.of, hdir] at hlayout
      refine ⟨by simp, fun key text' hkey => ?_, hdir⟩
      simp only [templates, htemplate, Option.map_some, Option.toList_some, List.mem_append,
        List.mem_singleton, Option.mem_toList, Option.map_eq_some_iff, Prod.mk.injEq] at hkey
      rcases hkey with (⟨rfl, rfl⟩ | ⟨s', hs', rfl, rfl⟩) | ⟨s', hs', rfl, rfl⟩
      · exact templateOf_eq_ok.1 ⟨t, ht⟩
      · exact (hook_eq_ok ..).1 ⟨code, hcode⟩ s' hs'
      · exact (hook_eq_ok ..).1 ⟨path, hpath⟩ s' hs'
  · rintro ⟨htemplate, htexts, hdir⟩
    obtain ⟨text, htemplate⟩ := Option.ne_none_iff_exists'.1 htemplate
    obtain ⟨dir, hdir⟩ := Option.ne_none_iff_exists'.1 hdir
    obtain ⟨t, ht⟩ := templateOf_eq_ok.2 (htexts "template" text (by simp [templates, htemplate]))
    obtain ⟨code, hcode⟩ := (hook_eq_ok "output" codeVariable s.codeHook).2 fun s' hs' =>
      htexts "output" s' (by simp [templates, hs'])
    obtain ⟨path, hpath⟩ := (hook_eq_ok "rewrite" pathVariable s.pathHook).2 fun s' hs' =>
      htexts "rewrite" s' (by simp [templates, hs'])
    unfold context
    simp only [htemplate, ht, hcode, hpath, hdir, OutputLayout.of, bind, Except.bind]
    exact ⟨_, rfl⟩

end Settings

/-! ## Causes and openings -/

namespace Command

variable {readers : Readers} {d : Disk} {c : Command}

theorem fetch_opening_ok {location : String} {output : Option Path}
    (h : (fetch location output).opening readers d = .ok ()) :
    ∃ text, d.read ⟨location⟩ = .ok text ∧ readers.value? location text ≠ none := by
  obtain ⟨text, htext, h⟩ := bind_eq_ok.1 h
  refine ⟨text, Disk.textAt_eq_ok.1 htext, fun hnone => ?_⟩
  simp [hnone] at h

theorem model_opening_ok {location : String} {output : Path}
    (h : (model location output).opening readers d = .ok ()) :
    ∃ text doc, d.read ⟨location⟩ = .ok text ∧ readers.document location text = .ok doc ∧
      doc.schemas? ≠ none := by
  obtain ⟨doc, hdoc, h⟩ := bind_eq_ok.1 h
  obtain ⟨text, htext, hdoc⟩ := Disk.documentAt_eq_ok.1 hdoc
  refine ⟨text, doc, htext, hdoc, fun hnone => ?_⟩
  simp [hnone] at h

theorem generate_opening_ok {location : String} {dir modelFile file : Option Path}
    (h : (generate location dir modelFile file).opening readers d = .ok ()) :
    ∃ s text doc, d.HasSettings readers file s ∧
      (∃ r, (s.override dir modelFile).context readers = .ok r) ∧
        d.read ⟨location⟩ = .ok text ∧ readers.document location text = .ok doc := by
  obtain ⟨s, hs, h⟩ := bind_eq_ok.1 h
  obtain ⟨r, hr, h⟩ := bind_eq_ok.1 h
  obtain ⟨doc, hdoc, -⟩ := bind_eq_ok.1 h
  obtain ⟨text, htext, hdoc⟩ := Disk.documentAt_eq_ok.1 hdoc
  exact ⟨s, text, doc, Disk.settingsAt_eq_ok.1 hs, ⟨r, mapError_eq_ok.1 hr⟩, htext, hdoc⟩

/-- Every command that can begin has read its document. -/
theorem read_of_opening_ok (h : c.opening readers d = .ok ()) :
    ∃ text, d.read ⟨c.location⟩ = .ok text := by
  cases c with
  | fetch location output =>
    obtain ⟨text, htext, -⟩ := fetch_opening_ok h
    exact ⟨text, htext⟩
  | model location output =>
    obtain ⟨text, -, htext, -⟩ := model_opening_ok h
    exact ⟨text, htext⟩
  | generate location dir modelFile file =>
    obtain ⟨-, text, -, -, -, htext, -⟩ := generate_opening_ok h
    exact ⟨text, htext⟩

/-- **Nothing hinders a command whose opening succeeds.** -/
theorem not_hindered_of_opening_ok (hok : c.opening readers d = .ok ()) :
    ¬ Hindered readers d c := by
  intro h
  cases h with
  | settingsUnreadable hneeds h =>
    obtain ⟨s, -, -, hs, -⟩ := generate_opening_ok hok
    obtain ⟨text, -, htext, -⟩ := hs.read_of_needs hneeds
    cases htext.symm.trans h
  | settingsText hneeds htext h =>
    obtain ⟨s, -, -, hs, -⟩ := generate_opening_ok hok
    obtain ⟨text, table, htext', htable, -⟩ := hs.read_of_needs hneeds
    cases htext.symm.trans htext'
    cases htable.symm.trans h
  | settingsValue hneeds htext htable h =>
    obtain ⟨s, -, -, hs, -⟩ := generate_opening_ok hok
    obtain ⟨text, table, htext', htable', hs⟩ := hs.read_of_needs hneeds
    cases htext.symm.trans htext'
    cases htable.symm.trans htable'
    cases hs.symm.trans h
  | templateMissing hs h =>
    obtain ⟨s, -, -, hs', hcontext, -⟩ := generate_opening_ok hok
    obtain rfl := hs.unique hs'
    exact (Settings.context_eq_ok.1 hcontext).1 h
  | templateInvalid hs hkey h =>
    obtain ⟨s, -, -, hs', hcontext, -⟩ := generate_opening_ok hok
    obtain rfl := hs.unique hs'
    exact (Settings.context_eq_ok.1 hcontext).2.1 _ _ hkey h
  | dirMissing hs h =>
    obtain ⟨s, -, -, hs', hcontext, -⟩ := generate_opening_ok hok
    obtain rfl := hs.unique hs'
    exact (Settings.context_eq_ok.1 hcontext).2.2 h
  | documentUnreadable h =>
    obtain ⟨text, htext⟩ := read_of_opening_ok hok
    cases htext.symm.trans h
  | valueText htext h =>
    obtain ⟨text, htext', hvalue⟩ := fetch_opening_ok hok
    cases htext.symm.trans htext'
    exact hvalue h
  | modelDocument htext h =>
    obtain ⟨text, doc, htext', hdoc, -⟩ := model_opening_ok hok
    cases htext.symm.trans htext'
    cases hdoc.symm.trans h
  | runDocument htext h =>
    obtain ⟨s, text, doc, -, -, htext', hdoc⟩ := generate_opening_ok hok
    cases htext.symm.trans htext'
    cases hdoc.symm.trans h
  | noSchemas htext hdoc h =>
    obtain ⟨text, doc, htext', hdoc', hschemas⟩ := model_opening_ok hok
    cases htext.symm.trans htext'
    cases hdoc.symm.trans hdoc'
    exact hschemas h

/-- A text that cannot be read hinders, and the error tells of it. -/
theorem hindered_of_textAt_error {e : CommandError} (he : d.textAt c.location = .error e) :
    Hindered readers d c ∧ e.IsEarly := by
  obtain ⟨fe, hread, rfl⟩ := mapError_eq_error.1 he
  exact ⟨.documentUnreadable hread, trivial⟩

theorem documentAt_error {location : String} {e : CommandError}
    (he : d.documentAt readers location = .error e) :
    d.textAt location = .error e ∨ ∃ text de, d.read ⟨location⟩ = .ok text ∧
      readers.document location text = .error de ∧ e = .document de := by
  rcases bind_eq_error he with htext | ⟨text, htext, h⟩
  · exact .inl htext
  · obtain ⟨de, hde, rfl⟩ := mapError_eq_error.1 h
    exact .inr ⟨text, de, Disk.textAt_eq_ok.1 htext, hde, rfl⟩

/-- Settings that cannot be read hinder, and the error tells of them. -/
theorem hindered_of_settingsAt_error {location : String} {dir modelFile file : Option Path}
    {e : CommandError} (he : d.settingsAt readers file = .error e) :
    Hindered readers d (generate location dir modelFile file) ∧ e.IsEarly := by
  rcases d.absent_or_needs file with ⟨hfile, hkind⟩ | hneeds
  · rw [Disk.settingsAt_of_absent hfile hkind] at he
    cases he
  · rw [Disk.settingsAt_of_needs hneeds] at he
    rcases bind_eq_error he with hread | ⟨text, htext, h⟩
    · obtain ⟨fe, hfe, rfl⟩ := mapError_eq_error.1 hread
      exact ⟨.settingsUnreadable hneeds hfe, trivial⟩
    · have htext := mapError_eq_ok.1 htext
      cases htable : readers.toml? text with
      | none =>
        simp only [htable] at h
        cases h
        exact ⟨.settingsText hneeds htext htable, trivial⟩
      | some table =>
        simp only [htable] at h
        obtain ⟨ce, hce, rfl⟩ := mapError_eq_error.1 h
        exact ⟨.settingsValue hneeds htext htable hce, trivial⟩

/-- Settings that do not suffice for a run hinder. -/
theorem hindered_of_context_error {location : String} {dir modelFile file : Option Path}
    {s : Settings} {ce : ConfigError} (hs : d.HasSettings readers file s)
    (h : (s.override dir modelFile).context readers = .error ce) :
    Hindered readers d (generate location dir modelFile file) := by
  have hnot : ¬ ∃ r, (s.override dir modelFile).context readers = .ok r := by
    rintro ⟨r, hr⟩
    cases hr.symm.trans h
  refine Classical.byContradiction fun hno => hnot ?_
  refine Settings.context_eq_ok.2 ⟨fun htemplate => hno (.templateMissing hs htemplate),
    fun key text hkey htext => hno (.templateInvalid hs hkey htext), fun hdir => ?_⟩
  cases dir with
  | some dir => cases hdir
  | none => exact hno (.dirMissing hs hdir)

/-- **Something hinders a command whose opening fails**, and the error tells of it. -/
theorem hindered_of_opening_error {e : CommandError} (he : c.opening readers d = .error e) :
    Hindered readers d c ∧ e.IsEarly := by
  cases c with
  | fetch location output =>
    rcases bind_eq_error he with htext | ⟨text, htext, h⟩
    · exact hindered_of_textAt_error htext
    · split at h
      · rename_i hnone
        cases h
        exact ⟨.valueText (Disk.textAt_eq_ok.1 htext) (Option.isNone_iff_eq_none.1 hnone), trivial⟩
      · cases h
  | model location output =>
    rcases bind_eq_error he with hdoc | ⟨doc, hdoc, h⟩
    · rcases documentAt_error hdoc with htext | ⟨text, de, htext, hde, rfl⟩
      · exact hindered_of_textAt_error htext
      · exact ⟨.modelDocument htext hde, trivial⟩
    · obtain ⟨text, htext, hdoc⟩ := Disk.documentAt_eq_ok.1 hdoc
      split at h
      · rename_i hnone
        cases h
        exact ⟨.noSchemas htext hdoc (Option.isNone_iff_eq_none.1 hnone), rfl⟩
      · cases h
  | generate location dir modelFile file =>
    rcases bind_eq_error he with hs | ⟨s, hs, h⟩
    · exact hindered_of_settingsAt_error hs
    · have hs := Disk.settingsAt_eq_ok.1 hs
      rcases bind_eq_error h with hcontext | ⟨plan, -, h⟩
      · obtain ⟨ce, hce, rfl⟩ := mapError_eq_error.1 hcontext
        exact ⟨hindered_of_context_error hs hce, trivial⟩
      · rcases bind_eq_error h with hdoc | ⟨doc, -, h⟩
        · rcases documentAt_error hdoc with htext | ⟨text, de, htext, hde, rfl⟩
          · exact hindered_of_textAt_error htext
          · exact ⟨.runDocument htext hde, trivial⟩
        · cases h

/-- **A command is hindered exactly if its opening fails.** -/
theorem hindered_iff : Hindered readers d c ↔ ∃ e, c.opening readers d = .error e := by
  refine ⟨fun h => ?_, fun ⟨e, he⟩ => (hindered_of_opening_error he).1⟩
  cases hopening : c.opening readers d with
  | error e => exact ⟨e, rfl⟩
  | ok u => exact absurd h (not_hindered_of_opening_ok hopening)

end Command

end TypedRequests
