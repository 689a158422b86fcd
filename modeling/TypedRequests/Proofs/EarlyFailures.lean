import TypedRequests.Proofs.Files
import TypedRequests.Proofs.Openings

/-!
# Commands that fail early

A command reads all that it needs before it touches a file. If something is wrong with what it
reads, it fails and the disk is as it was.

* `Transcript.Reads`, `Transcript.Fails` : steps that leave the disk alone.
* `Transcript.perform_of_opening_error` : a command whose opening fails says so and touches nothing.
* `Transcript.endsLate_of_opening_ok` : other commands do not end with an error of that kind.
* `Transcript.early_failures_touch_nothing` : hindered commands fail, and touch nothing.
-/

set_option autoImplicit false

namespace TypedRequests

open OpenApi Request

/-! ## Steps that only read -/

namespace Transcript

/-- The transcript with other lines about what was done. -/
def withSaid (t : Transcript) (said : List String) : Transcript :=
  { t with said }

/-- The step answers what is found on the disk, and changes nothing but what was said. -/
def Reads {α : Type} (step : ExceptT CommandError (StateM Transcript) α)
    (find : Disk → Except CommandError α) : Prop :=
  ∀ t, ∃ said, step.run t = (find t.disk, t.withSaid said)

/-- The step fails, and changes nothing but what was said. -/
def Fails {α : Type} (step : ExceptT CommandError (StateM Transcript) α) (t : Transcript)
    (e : CommandError) : Prop :=
  ∃ said, step.run t = (.error e, t.withSaid said)

namespace Reads

variable {α β : Type} {step : ExceptT CommandError (StateM Transcript) α}
  {next : α → ExceptT CommandError (StateM Transcript) β} {f : Disk → Except CommandError α}
  {t : Transcript}

/-- After such a step comes the next one, on the same disk. -/
theorem run_of_ok (h : Reads step f) {a : α} (ha : f t.disk = .ok a) :
    ∃ said, (step >>= next).run t = (next a).run (t.withSaid said) := by
  obtain ⟨said, hsaid⟩ := h t
  rw [ha] at hsaid
  exact ⟨said, by rw [ExceptT.run_bind, bind_eq hsaid]⟩

/-- If such a step fails, nothing comes after it. -/
theorem run_of_error (h : Reads step f) {e : CommandError} (he : f t.disk = .error e) :
    ∃ said, (step >>= next).run t = (.error e, t.withSaid said) := by
  obtain ⟨said, hsaid⟩ := h t
  rw [he] at hsaid
  exact ⟨said, by rw [ExceptT.run_bind, bind_eq hsaid]; rfl⟩

theorem bind {g : α → Disk → Except CommandError β} (h : Reads step f)
    (hnext : ∀ a, Reads (next a) (g a)) :
    Reads (step >>= next) fun d => f d >>= fun a => g a d := by
  intro t
  change ∃ said, _ = (f t.disk >>= fun a => g a t.disk, _)
  cases hfind : f t.disk with
  | error e => exact h.run_of_error hfind
  | ok a =>
    obtain ⟨said, hsaid⟩ : ∃ said, (step >>= next).run t = (next a).run (t.withSaid said) :=
      h.run_of_ok hfind
    obtain ⟨said', hsaid'⟩ := hnext a (t.withSaid said)
    exact ⟨said', hsaid.trans hsaid'⟩

theorem fails_of_ok (h : Reads step f) {a : α} {e : CommandError} (ha : f t.disk = .ok a)
    (hnext : ∀ said, Fails (next a) (t.withSaid said) e) : Fails (step >>= next) t e := by
  obtain ⟨said, hsaid⟩ : ∃ said, (step >>= next).run t = (next a).run (t.withSaid said) :=
    h.run_of_ok ha
  obtain ⟨said', hsaid'⟩ := hnext said
  exact ⟨said', hsaid.trans hsaid'⟩

/-- A failure among what is found is one of the step, or one of those after it. -/
theorem fails_bind {γ : Type} {g : α → Except CommandError γ} {e : CommandError} (h : Reads step f)
    (he : (f t.disk >>= g) = .error e)
    (hnext : ∀ a said, g a = .error e → Fails (next a) (t.withSaid said) e) :
    Fails (step >>= next) t e := by
  cases hfind : f t.disk with
  | error e' =>
    rw [hfind] at he
    cases he
    exact h.run_of_error hfind
  | ok a =>
    rw [hfind] at he
    exact h.fails_of_ok hfind fun said => hnext a said he

theorem result (r : Except CommandError α) : Reads (ExceptT.mk (Pure.pure r)) fun _ => r :=
  fun t => ⟨t.said, rfl⟩

end Reads

variable {readers : Readers}

theorem reads_now : Reads (liftM (machine readers).now) fun _ => .ok 0 :=
  fun t => ⟨t.said, rfl⟩

theorem reads_sayTimed (start : Nat) (text : String) :
    Reads (liftM ((machine readers).sayTimed start text)) fun _ => .ok () :=
  fun _ => ⟨_, rfl⟩

theorem reads_kind? (p : Path) :
    Reads (liftM ((machine readers).files.kind? p)) fun d => .ok (d.kind? p) :=
  fun t => ⟨t.said, rfl⟩

theorem reads_readText (p : Path) :
    Reads ((machine readers).readText p) fun d => (d.read p).mapError (.unreadable p) :=
  fun t => ⟨t.said, rfl⟩

theorem reads_loadText {location : String} (h : Source.isRemote location = false) :
    Reads ((machine readers).loadText location) fun d => d.textAt location := by
  unfold Machine.loadText
  rw [if_neg (by simp [h])]
  exact reads_readText ⟨location⟩

theorem reads_loadSettings (file : Option Path) :
    Reads ((machine readers).loadSettings file) fun d => d.settingsAt readers file := by
  unfold Machine.loadSettings
  rw [readers_machine]
  refine (reads_kind? (file.getD defaultSettingsFile)).bind (g := fun kind d =>
    if file.isNone && kind.isNone then .ok .empty
    else d.settingsIn readers (file.getD defaultSettingsFile)) fun kind => ?_
  split
  · exact .result (.ok Settings.empty)
  · refine (reads_readText (file.getD defaultSettingsFile)).bind fun text => ?_
    cases readers.toml? text with
    | none => exact .result (.error _)
    | some table => exact .result _

theorem reads_loadDocument {location : String} (h : Source.isRemote location = false) :
    Reads ((machine readers).loadDocument location) fun d => d.documentAt readers location := by
  unfold Machine.loadDocument
  rw [readers_machine]
  refine reads_now.bind (g := fun _ d => d.documentAt readers location) fun start => ?_
  refine (reads_loadText h).bind
    (g := fun text _ => (readers.document location text).mapError .document) fun text => ?_
  intro t
  obtain ⟨said, hsaid⟩ := ((Reads.result ((readers.document location text).mapError .document)).bind
    fun doc => (reads_sayTimed start ("Loaded " ++ location)).bind fun _ =>
      .result (.ok doc)) t
  refine ⟨said, hsaid.trans ?_⟩
  cases readers.document location text <;> rfl

/-! ## Commands -/

variable {c : Command} {t : Transcript}

/-- **A command whose opening fails says so and touches nothing.** -/
theorem perform_of_opening_error (hlocal : Source.isRemote c.location = false) {e : CommandError}
    (he : c.opening readers t.disk = .error e) : Fails (c.perform (machine readers)) t e := by
  cases c with
  | fetch location output =>
    change Fails ((machine readers).fetch location output) t e
    unfold Machine.fetch
    rw [readers_machine]
    refine reads_now.fails_of_ok rfl fun said => ?_
    refine (reads_loadText hlocal).fails_bind he fun text said he => ?_
    split at he
    · rename_i hnone
      obtain rfl := Except.error.inj he
      simp only [Option.isNone_iff_eq_none.1 hnone]
      split
      · exact (reads_sayTimed 0 ("Fetched " ++ location)).fails_of_ok rfl fun said => ⟨_, rfl⟩
      · exact ⟨_, rfl⟩
    · cases he
  | model location output =>
    change Fails ((machine readers).model location output) t e
    unfold Machine.model
    refine (reads_loadDocument hlocal).fails_bind he fun doc said he => ?_
    split at he
    · rename_i hnone
      obtain rfl := Except.error.inj he
      have hmodule : modelModule? doc = none := by
        rw [modelModule?, Option.isNone_iff_eq_none.1 hnone]
        rfl
      unfold writeModel
      rw [hmodule]
      exact ⟨_, rfl⟩
    · cases he
  | generate location dir modelFile file =>
    change Fails ((machine readers).generate location dir modelFile file) t e
    unfold Machine.generate
    rw [readers_machine]
    refine reads_now.fails_of_ok rfl fun said => ?_
    refine (reads_loadSettings file).fails_bind he fun settings said he => ?_
    refine (Reads.result _).fails_bind he fun plan said he => ?_
    exact (reads_loadDocument hlocal).fails_bind he fun doc said he => nomatch he

/-- The errors with which the step can end are not early ones. -/
def EndsLate {α : Type} (step : ExceptT CommandError (StateM Transcript) α) (t : Transcript) :
    Prop :=
  ∀ e, (step.run t).1 = .error e → ¬ e.IsEarly

section EndsLate

variable {α β γ : Type} {step : ExceptT CommandError (StateM Transcript) α}
  {next : α → ExceptT CommandError (StateM Transcript) β}

theorem endsLate_lift (action : StateM Transcript α) : EndsLate (liftM action) t :=
  nofun

theorem EndsLate.bind (h : EndsLate step t) (hnext : ∀ a t', EndsLate (next a) t') :
    EndsLate (step >>= next) t := by
  intro e he
  rw [ExceptT.run_bind] at he
  cases hstep : step.run t with
  | mk r t' =>
    rw [bind_eq hstep] at he
    cases r with
    | error e' =>
      obtain rfl := Except.error.inj he
      exact h e' (by rw [hstep])
    | ok a => exact hnext a t' e he

theorem Reads.endsLate_bind {f : Disk → Except CommandError α} {g : α → Except CommandError γ}
    {b : γ} (h : Reads step f) (hok : (f t.disk >>= g) = .ok b)
    (hnext : ∀ a said, g a = .ok b → EndsLate (next a) (t.withSaid said)) :
    EndsLate (step >>= next) t := by
  cases hfind : f t.disk with
  | error e =>
    rw [hfind] at hok
    cases hok
  | ok a =>
    rw [hfind] at hok
    obtain ⟨said, hsaid⟩ : ∃ said, (step >>= next).run t = (next a).run (t.withSaid said) :=
      h.run_of_ok hfind
    intro e he
    exact hnext a said hok e (hsaid ▸ he)

/-- A step whose errors are told as late ones. -/
theorem endsLate_adapt {ε : Type} {tell : ε → CommandError} (htell : ∀ e, ¬ (tell e).IsEarly)
    (step : ExceptT ε (StateM Transcript) α) : EndsLate (step.adapt tell) t := by
  intro e he
  change ((step.run t).1.mapError tell) = _ at he
  cases hstep : (step.run t).1 with
  | error e' =>
    rw [hstep] at he
    exact Except.error.inj he ▸ htell e'
  | ok a =>
    rw [hstep] at he
    cases he

end EndsLate

theorem run_lift {α : Type} {action : StateM Transcript α} {t t' : Transcript} {a : α}
    (h : action t = (a, t')) :
    (liftM action : ExceptT CommandError (StateM Transcript) α).run t = (.ok a, t') := by
  change (Except.ok (action t).1, (action t).2) = _
  rw [h]

theorem run_notes (ns : List Notice) (t : Transcript) :
    ∃ t', (ns.forM fun n => (liftM ((machine readers).note n) :
      ExceptT GenerateError (StateM Transcript) Unit)).run t = (.ok (), t') := by
  induction ns generalizing t with
  | nil => exact ⟨t, rfl⟩
  | cons n ns ih => exact ih _

/-- The result of a run is told after its notices. -/
theorem settle_fst {α : Type} (o : Outcome α) (t : Transcript) :
    (((machine readers).settle o).run t).1 = o.result := by
  obtain ⟨t', ht'⟩ := run_notes o.notices t
  unfold Machine.settle
  rw [ExceptT.run_bind, bind_eq ht']
  rfl

/-- A model module that is there can only fail to be written. -/
theorem writeModel_result {doc : Document} (hdoc : ¬ doc.schemas?.isNone = true) {p : Path}
    {t t' : Transcript} {o : Outcome Unit}
    (h : writeModel doc p (machine readers).files.writer t = (o, t')) {e : GenerateError}
    (he : o.result = .error e) : ∃ fe, e = .write p fe := by
  obtain ⟨schemas, hschemas⟩ := Option.ne_none_iff_exists'.1 (mt Option.isNone_iff_eq_none.2 hdoc)
  unfold writeModel modelModule? at h
  rw [hschemas] at h
  cases hw : (machine readers).files.writer.write p (declareAll schemas.entries).2.text t with
  | mk written t'' =>
    simp only [Option.map_some, writeModule, bind_assoc] at h
    rw [bind_eq hw] at h
    cases h
    cases written with
    | error fe => exact ⟨fe, (Except.error.inj he).symm⟩
    | ok u => cases he

theorem endsLate_writeModel {doc : Document} (hdoc : ¬ doc.schemas?.isNone = true) (p : Path) :
    EndsLate (do
      let o ← (writeModel doc p (machine readers).files.writer : StateM Transcript (Outcome Unit))
      ((machine readers).settle o).adapt .model) t := by
  intro e he
  cases ho : writeModel doc p (machine readers).files.writer t with
  | mk o t' =>
    rw [ExceptT.run_bind, bind_eq (run_lift ho)] at he
    change ((((machine readers).settle o).run t').1.mapError CommandError.model) = _ at he
    rw [settle_fst] at he
    cases hresult : o.result with
    | ok u =>
      rw [hresult] at he
      cases he
    | error e' =>
      rw [hresult] at he
      obtain ⟨fe, rfl⟩ := writeModel_result hdoc ho hresult
      obtain rfl := Except.error.inj he
      exact nofun

/-- **A command whose opening succeeds does not end with an early error.** -/
theorem endsLate_of_opening_ok (hlocal : Source.isRemote c.location = false)
    (hok : c.opening readers t.disk = .ok ()) : EndsLate (c.perform (machine readers)) t := by
  cases c with
  | fetch location output =>
    change EndsLate ((machine readers).fetch location output) t
    unfold Machine.fetch
    rw [readers_machine]
    refine reads_now.endsLate_bind (g := fun _ => .ok ()) rfl fun _ said _ => ?_
    refine (reads_loadText hlocal).endsLate_bind hok fun text said hvalue => ?_
    split at hvalue
    · cases hvalue
    · rename_i hsome
      obtain ⟨value, hvalue⟩ := Option.ne_none_iff_exists'.1 (mt Option.isNone_iff_eq_none.2 hsome)
      simp only [hvalue]
      cases output with
      | none => exact endsLate_lift _
      | some p =>
        rw [if_pos (by rfl)]
        refine (endsLate_lift _).bind fun _ t' => ?_
        exact (endsLate_adapt (fun _ => id) _).bind fun _ _ => endsLate_lift _
  | model location output =>
    change EndsLate ((machine readers).model location output) t
    unfold Machine.model
    refine (reads_loadDocument hlocal).endsLate_bind hok fun doc said hdoc => ?_
    split at hdoc
    · cases hdoc
    · rename_i hsome
      rw [← bind_assoc]
      exact (endsLate_writeModel hsome output).bind fun _ _ => endsLate_lift _
  | generate location dir modelFile file =>
    change EndsLate ((machine readers).generate location dir modelFile file) t
    unfold Machine.generate
    rw [readers_machine]
    refine reads_now.endsLate_bind (g := fun _ => .ok ()) rfl fun _ said _ => ?_
    refine (reads_loadSettings file).endsLate_bind hok fun settings said hok => ?_
    refine (Reads.result _).endsLate_bind hok fun plan said hok => ?_
    refine (reads_loadDocument hlocal).endsLate_bind hok fun doc said hok => ?_
    refine (endsLate_lift _).bind fun o _ => ?_
    refine (endsLate_adapt ?_ _).bind fun report _ => endsLate_lift _
    exact fun _ => id

/-- **Commands that fail early touch nothing.** If something is wrong with what a command reads,
the command line ends with a failure, an error that tells of it is the one complaint, and the disk
is as it was. Only then does a command end with such an error. All of this holds whatever the
readers of documents, settings and templates make of their texts. -/
theorem early_failures_touch_nothing (readers : Readers) {args : List String}
    (hargs : Invocation.ofArguments args = .run c) (hlocal : Source.isRemote c.location = false)
    (t : Transcript) :
    (Command.Hindered readers t.disk c → ∃ (e : CommandError) (said : List String), e.IsEarly ∧
      invoke (machine readers) args t =
        (.failure, { t with said := said, complaints := t.complaints ++ [e.message] })) ∧
    (∀ e : CommandError, e.IsEarly → ((c.perform (machine readers)).run t).1 = .error e →
      Command.Hindered readers t.disk c) ∧
    Exit.failure.code = 1 := by
  refine ⟨fun h => ?_, fun e hearly he => ?_, rfl⟩
  · obtain ⟨e, he⟩ := Command.hindered_iff.1 h
    obtain ⟨said, hrun⟩ := perform_of_opening_error hlocal he
    refine ⟨e, said, (Command.hindered_of_opening_error he).2, ?_⟩
    unfold invoke
    simp only [hargs]
    unfold Command.run
    rw [bind_eq hrun]
    rfl
  · refine Command.hindered_iff.2 ?_
    cases hopening : c.opening readers t.disk with
    | error e' => exact ⟨e', rfl⟩
    | ok u => exact absurd hearly (endsLate_of_opening_ok hlocal hopening e he)

/-- A template whose expression does not end. -/
def openTemplate : String :=
  "http(\x7b\x7b URL "

/-- The text of settings with this template. -/
def openSettings : String :=
  "[generate]\ntemplate = \"" ++ openTemplate ++ "\"\n"

/-- A disk whose current directory has an output directory with a file, and these settings. -/
def outputDisk : Disk :=
  ⟨[(["work"], .directory), (["work", "socg.toml"], .file openSettings),
    (["work", "api"], .directory), (["work", "api", "index.ts"], .file "kept")], ["work"]⟩

theorem early_failure_keeps_output :
    Invocation.ofArguments ["generate", "openapi.json", "-d", "api"] =
        .run (.generate "openapi.json" (some ⟨"api"⟩) none none) ∧
      (∃ (e : CommandError) (said : List String), e.IsEarly ∧
        invoke (machine .builtin) ["generate", "openapi.json", "-d", "api"] (.ofDisk outputDisk) =
          (.failure, ⟨outputDisk, said, [e.message], []⟩)) ∧
      Command.Hindered .builtin outputDisk
        (.generate "openapi.json" (some ⟨"api"⟩) none none) := by
  have hargs : Invocation.ofArguments ["generate", "openapi.json", "-d", "api"] =
      .run (.generate "openapi.json" (some ⟨"api"⟩) none none) := by decide
  have htext : (outputDisk.read defaultSettingsFile).toOption = some openSettings := by
    decide +kernel
  have hsettings : (Toml.ofText? openSettings).any (fun table =>
      (Settings.ofToml table).toOption.any fun s => s.template == some openTemplate) = true := by
    decide +kernel
  have htemplate : Readers.builtin.template? "template" openTemplate = none := by
    rw [Readers.builtin_template?, Option.map_eq_none_iff]
    decide +kernel
  obtain ⟨table, htable, hsettings⟩ := (Option.any_eq_true _ _).1 hsettings
  obtain ⟨s, hs, hsource⟩ := (Option.any_eq_true _ _).1 hsettings
  have hkey : ("template", openTemplate) ∈ s.templates := by
    simp [Settings.templates, beq_iff_eq.1 hsource]
  have hforce : outputDisk.HasSettings .builtin none s :=
    .given (fun _ => by decide) (eq_ok_of_toOption htext) htable (eq_ok_of_toOption hs)
  have hhindered : Command.Hindered .builtin outputDisk
      (.generate "openapi.json" (some ⟨"api"⟩) none none) :=
    .templateInvalid hforce hkey htemplate
  obtain ⟨hfails, -⟩ :=
    early_failures_touch_nothing .builtin hargs (by decide) (.ofDisk outputDisk)
  exact ⟨hargs, hfails hhindered, hhindered⟩

end Transcript

end TypedRequests
