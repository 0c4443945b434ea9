import TagLedger.Proofs.Store.Color
import TagLedger.Proofs.Workspace.Files
import TagLedger.Workspace.Opening

/-!
# What a workspace keeps

Opening a store, migrating it and closing it again leave what it holds as it is, in every state that
the files beside the store may be in and also if the store cannot be opened.  What it holds is any
view of its file that neither a migration nor the log has a part in: its documents, or its colors.

A store that has been opened is current: nothing is left to be migrated.
-/

namespace TagLedger

/-! ## Programs on a state -/

section Programs

variable {ε σ α β : Type}

/-- The program leaves a state that satisfies the condition if it starts in one, however it ends. -/
def Preserves (condition : σ → Prop) (program : ExceptT ε (StateM σ) α) : Prop :=
  ∀ state, condition state → condition (program.run state).2

variable {condition : σ → Prop}

theorem run_bind (program : ExceptT ε (StateM σ) α) (next : α → ExceptT ε (StateM σ) β)
    (state : σ) : (program >>= next).run state =
      match program.run state with
      | (.ok value, after) => (next value).run after
      | (.error error, after) => (.error error, after) := by
  rw [ExceptT.run_bind]
  simp only [bind, StateT.bind]
  cases program.run state with
  | mk result after => cases result <;> rfl

theorem run_pure (value : α) (state : σ) :
    (pure value : ExceptT ε (StateM σ) α).run state = (.ok value, state) := rfl

theorem run_throw (error : ε) (state : σ) :
    (throw error : ExceptT ε (StateM σ) α).run state = (.error error, state) := rfl

theorem run_get (state : σ) :
    (get : ExceptT ε (StateM σ) σ).run state = (.ok state, state) := rfl

theorem run_set (after state : σ) :
    (set after : ExceptT ε (StateM σ) PUnit).run state = (.ok ⟨⟩, after) := rfl

theorem run_modify (change : σ → σ) (state : σ) :
    (modify change : ExceptT ε (StateM σ) PUnit).run state = (.ok ⟨⟩, change state) := rfl

theorem preserves_pure (value : α) :
    Preserves condition (pure value : ExceptT ε (StateM σ) α) :=
  fun _ hstate => hstate

theorem preserves_throw (error : ε) :
    Preserves condition (throw error : ExceptT ε (StateM σ) α) :=
  fun _ hstate => hstate

theorem preserves_throw_bind (error : ε) (next : α → ExceptT ε (StateM σ) β) :
    Preserves condition (throw error >>= next) :=
  fun _ hstate => hstate

theorem preserves_modify {change : σ → σ}
    (h : ∀ state, condition state → condition (change state)) :
    Preserves condition (modify change : ExceptT ε (StateM σ) PUnit) :=
  h

theorem preserves_bind {program : ExceptT ε (StateM σ) α} {next : α → ExceptT ε (StateM σ) β}
    (h : Preserves condition program) (hnext : ∀ value, Preserves condition (next value)) :
    Preserves condition (program >>= next) := by
  intro state hstate
  have hafter := h state hstate
  rw [run_bind]
  cases hrun : program.run state with
  | mk result after =>
      rw [hrun] at hafter
      cases result with
      | ok value => exact hnext value after hafter
      | error error => exact hafter

/-- What a program does with the state that it asks for first. -/
theorem preserves_get {next : σ → ExceptT ε (StateM σ) β}
    (h : ∀ state, condition state → condition ((next state).run state).2) :
    Preserves condition (get >>= next) :=
  fun state hstate => h state hstate

end Programs

/-! ## Views of the store's file -/

/-- The view does not tell a store from the same store migrated, logged or refusing to be written, and
what is not there yet looks like a blank store. -/
structure StoreFile.Lasting {α : Type} (view : StoreFile → α) : Prop where
  fresh : view .fresh = view (.store .blank true)
  absent : view .absent = view (.store .blank true)
  logged : ∀ content logged, view (.store content logged) = view (.store content true)
  refusing : ∀ (content : Store) refusal,
    view (.store { content with refusal } true) = view (.store content true)
  migrate : ∀ now (content : Store),
    view (.store (content.migrate now).2 true) = view (.store content true)

namespace Workspace

variable {workspace : Workspace} {name : String}

theorem storeDirectoryPlace_ne_nil (workspace : Workspace) : workspace.storeDirectoryPlace ≠ [] :=
  List.concat_ne_nil _ _

theorem storePlace_ne_nil (workspace : Workspace) : workspace.storePlace ≠ [] :=
  List.concat_ne_nil _ _

theorem storeFile_of_node? {files : Files}
    (h : files.node? workspace.storePlace = workspace.files.node? workspace.storePlace) :
    { workspace with files }.storeFile = workspace.storeFile :=
  congrArg StoreFile.ofNode h

theorem storeFile_put (node : FileNode) (workspace : Workspace) :
    { workspace with files := workspace.files.put workspace.storePlace node }.storeFile =
      .ofNode (some node) :=
  congrArg StoreFile.ofNode (Files.node?_put_self workspace.storePlace_ne_nil)

/-! ### Files beside the store -/

@[simp] theorem storeFile_putBeside (h : name ≠ storeFileName) (node : FileNode)
    (workspace : Workspace) : (workspace.putBeside name node).storeFile = workspace.storeFile :=
  storeFile_of_node? (Files.node?_put_beside workspace.storeDirectoryPlace_ne_nil h)

@[simp] theorem storeFile_removeBeside (h : name ≠ storeFileName) (workspace : Workspace) :
    (workspace.removeBeside name).storeFile = workspace.storeFile :=
  storeFile_of_node? (Files.node?_remove_beside workspace.storeDirectoryPlace_ne_nil h (by decide))

theorem logFileName_ne : logFileName ≠ storeFileName := by decide

theorem indexFileName_ne : indexFileName ≠ storeFileName := by decide

theorem journalFileName_ne : journalFileName ≠ storeFileName := by decide

theorem storeFile_beginLog (written : Bool) (workspace : Workspace) :
    (workspace.beginLog written).storeFile = workspace.storeFile := by
  have hlog (log : FileNode) : (workspace.putBeside logFileName log).storeFile = workspace.storeFile :=
    storeFile_putBeside logFileName_ne log workspace
  unfold beginLog
  generalize (if written then FileNode.binary else _) = log
  dsimp only
  split
  · exact hlog log
  · rw [storeFile_putBeside indexFileName_ne, hlog]

theorem storeFile_settleStore (workspace : Workspace) :
    workspace.settleStore.storeFile = workspace.storeFile := by
  unfold settleStore
  split
  · next content logged text hnode =>
      have hfile : workspace.storeFile = .store content logged := congrArg StoreFile.ofNode hnode
      rw [hfile]
      exact storeFile_put (.store content logged none) workspace
  · rfl

theorem storeFile_closeStore (workspace : Workspace) :
    workspace.closeStore.storeFile = workspace.storeFile := by
  unfold closeStore
  split
  · rw [storeFile_settleStore, storeFile_removeBeside logFileName_ne,
      storeFile_removeBeside indexFileName_ne]
  · rfl

end Workspace

/-! ## Opening -/

section Views

variable {α : Type} {view : StoreFile → α} {shown : α}

/-- The view of the store's file in a workspace. -/
def Workspace.Shows (view : StoreFile → α) (shown : α) (workspace : Workspace) : Prop :=
  view workspace.storeFile = shown

theorem StoreFile.Lasting.store_eq (hview : StoreFile.Lasting view) (content : Store)
    (logged : Bool) (refusal : Option StoreFault) :
    view (.store { content with refusal } logged) = view (.store content true) :=
  (hview.logged _ logged).trans (hview.refusing content refusal)

theorem Workspace.view_putStore (hview : StoreFile.Lasting view) (store : Store)
    (workspace : Workspace) :
    view (workspace.putStore store).storeFile = view (.store store true) := by
  unfold putStore
  rw [storeFile_put]
  cases workspace.storeFile with
  | store held logged => exact hview.store_eq store logged held.refusal
  | _ => rfl

namespace Opening

open Workspace

theorem preserves_removeBeside {name : String} (h : name ≠ storeFileName) :
    Preserves (Shows view shown) (modify (·.removeBeside name) : Opening PUnit) :=
  preserves_modify fun workspace hshown =>
    (congrArg view (storeFile_removeBeside h workspace)).trans hshown

theorem preserves_settleJournal (fresh : Bool) :
    Preserves (Shows view shown) (settleJournal fresh) := by
  unfold settleJournal
  refine preserves_bind (fun _ => id) fun workspace => ?_
  split
  · exact preserves_pure _
  · split
    · split
      · exact preserves_throw _
      · exact preserves_pure _
    · split
      · exact preserves_removeBeside journalFileName_ne
      · exact preserves_pure _

theorem preserves_dropLog : Preserves (Shows view shown) dropLog := by
  unfold dropLog
  refine preserves_bind (fun _ => id) fun workspace => ?_
  split
  · exact preserves_pure _
  · dsimp only
    split
    · exact preserves_throw_bind _ _
    · split
      · exact preserves_removeBeside logFileName_ne
      · exact preserves_pure _

theorem preserves_followLog (logged : Bool) :
    Preserves (Shows view shown) (followLog logged) := by
  unfold followLog
  refine preserves_bind (fun _ => id) fun workspace => ?_
  dsimp only
  split
  · exact preserves_pure _
  · split
    · exact preserves_throw_bind _ _
    · split
      · exact preserves_throw_bind _ _
      · exact preserves_pure _

/-- Setting up the log writes the store's own file, with the store that it has. -/
theorem preserves_setUpLog {content : Store} (h : view (.store content true) = shown) :
    Preserves (Shows view shown) (setUpLog content) := by
  unfold setUpLog
  split
  · exact preserves_throw_bind _ _
  · refine preserves_get fun workspace hshown => ?_
    dsimp only
    split
    · exact hshown
    · exact (congrArg view (storeFile_put (.store content true none)
        (workspace.removeBeside journalFileName))).trans h

/-- The program keeps the view, and a store that it gives is shown the same. -/
def Gives (view : StoreFile → α) (shown : α) (program : Opening Store) : Prop :=
  ∀ workspace, view workspace.storeFile = shown →
    view (program.run workspace).2.storeFile = shown ∧
    ∀ store, (program.run workspace).1 = .ok store → view (.store store true) = shown

theorem gives_bind {β : Type} {program : Opening β} {next : β → Opening Store}
    (h : Preserves (Shows view shown) program) (hnext : ∀ value, Gives view shown (next value)) :
    Gives view shown (program >>= next) := by
  intro workspace hshown
  have hafter := h workspace hshown
  rw [run_bind]
  cases hrun : program.run workspace with
  | mk result after =>
      rw [hrun] at hafter
      cases result with
      | ok value => exact hnext value after hafter
      | error error => exact ⟨hafter, fun store hstore => by cases hstore⟩

theorem gives_throw (failure : OpenFailure) : Gives view shown (throw failure) :=
  fun _ hshown => ⟨hshown, fun _ hstore => by cases hstore⟩

variable (hview : StoreFile.Lasting view)
include hview

/-- A migration ends in a store that is shown the same, which is put into its file if its version has
changed. -/
theorem run_migrate (now : String) (content : Store) (workspace : Workspace) :
    ∃ (migrated : Store) (written : Bool) (result : Except OpenFailure Store),
      view (.store migrated true) = view (.store content true) ∧
      (migrate now content).run workspace =
        (result, (if written then workspace.putStore migrated else workspace).beginLog written) ∧
      ∀ store, result = .ok store → store = migrated := by
  unfold migrate
  simp only [run_bind, run_get, run_set]
  generalize hopened : (if workspace.hasDirectory indexFileName = true then
    { content with refusal := some StoreFault.readOnly } else content) = opened
  have hshown : view (.store (opened.migrate now).2 true) = view (.store content true) := by
    rw [hview.migrate, ← hopened]
    split
    · exact hview.refusing content _
    · rfl
  refine ⟨(opened.migrate now).2, (opened.migrate now).2.version ≠ content.version, ?_⟩
  cases hresult : (opened.migrate now).1 with
  | error fault =>
      refine ⟨.error (.migration fault), hshown, ?_, fun store hstore => by cases hstore⟩
      simp only [run_throw, decide_eq_true_eq]
  | ok version =>
      refine ⟨.ok (opened.migrate now).2, hshown, ?_, ?_⟩
      · simp only [run_pure, decide_eq_true_eq]
      · exact fun store hstore => (Except.ok.inj hstore).symm

theorem gives_migrate (now : String) {content : Store} (h : view (.store content true) = shown) :
    Gives view shown (migrate now content) := by
  intro workspace hshown
  obtain ⟨migrated, written, result, hmigrated, hrun, hresult⟩ :=
    run_migrate hview now content workspace
  rw [hrun]
  refine ⟨?_, fun store hstore => ?_⟩
  · rw [storeFile_beginLog]
    split
    · rw [view_putStore hview, hmigrated, h]
    · exact hshown
  · rw [hresult store hstore, hmigrated, h]

theorem gives_openFresh (now : String) (h : view (.store .blank true) = shown) :
    Gives view shown (openFresh now) := by
  unfold openFresh
  exact gives_bind (preserves_settleJournal true) fun _ =>
    gives_bind preserves_dropLog fun _ =>
      gives_bind (preserves_setUpLog h) fun _ => gives_migrate hview now h

theorem gives_openContent (now : String) {content : Store} (logged : Bool)
    (h : view (.store content true) = shown) : Gives view shown (openContent now content logged) := by
  unfold openContent
  refine gives_bind (preserves_settleJournal false) fun _ =>
    gives_bind (preserves_followLog logged) fun followed => ?_
  dsimp only
  split
  · exact gives_bind (preserves_setUpLog h) fun _ => gives_migrate hview now h
  · exact gives_migrate hview now h

omit hview in
theorem gives_openDamaged (defect : Defect) (logged : Bool) :
    Gives view shown (openDamaged defect logged) := by
  unfold openDamaged
  refine gives_bind (preserves_settleJournal false) fun _ =>
    gives_bind (preserves_followLog logged) fun followed => ?_
  dsimp only
  split
  · refine gives_bind ?_ fun _ => gives_throw _
    exact preserves_modify fun workspace hshown =>
      (congrArg view (storeFile_beginLog false workspace)).trans hshown
  · exact gives_throw _

theorem gives_openStore (now : String) : Gives view shown (openStore now) := by
  intro workspace hshown
  unfold openStore
  rw [run_bind, run_get]
  dsimp only
  have hfile : view workspace.storeFile = shown := hshown
  cases hstore : workspace.storeFile with
  | directory => exact gives_throw _ workspace hshown
  | absent =>
      rw [hstore, hview.absent] at hfile
      have hcreated : view { workspace with
          files := workspace.files.put workspace.storePlace (.text "") }.storeFile = shown := by
        rw [storeFile_put, ← hfile, ← hview.fresh]
        rfl
      exact gives_openFresh hview now hfile _ hcreated
  | fresh =>
      rw [hstore, hview.fresh] at hfile
      exact gives_openFresh hview now hfile workspace hshown
  | damaged defect logged => exact gives_openDamaged defect logged workspace hshown
  | store content logged =>
      rw [hstore, hview.logged] at hfile
      exact gives_openContent hview now logged hfile workspace hshown

end Opening

/-- Opening the store of a project keeps what it holds, and the store that is opened has it. -/
theorem Workspace.view_openStore (hview : StoreFile.Lasting view) {now : String}
    {workspace opened : Workspace} {result : Except LedgerError Store}
    (h : workspace.openStore now = (result, opened)) :
    view opened.storeFile = view workspace.storeFile ∧
      ∀ store, result = .ok store → view (.store store true) = view workspace.storeFile := by
  obtain ⟨hopened, hstore⟩ := Opening.gives_openStore hview now workspace rfl
  have hcreate : workspace.createStore now = (Opening.openStore now).run workspace := rfl
  rw [← hcreate] at hopened hstore
  unfold openStore at h
  split at h
  · cases h
    exact ⟨rfl, fun store hstore => by cases hstore⟩
  · dsimp only at h
    split at h
    · next store hresult =>
        split at h
        · cases h
          refine ⟨hopened, fun other hother => ?_⟩
          cases hother
          exact hstore store hresult
        · cases h
          exact ⟨hopened, fun store hstore => by cases hstore⟩
    · cases h
      exact ⟨hopened, fun store hstore => by cases hstore⟩

end Views

/-! ## Documents -/

/-- The rows of both collections; a collection without a table has none. -/
abbrev DocumentRows : Type :=
  Collection → List (String × DocumentRow)

def Store.documentRows (store : Store) : DocumentRows :=
  fun collection => ((store.documents collection).getD .empty).rows

def StoreFile.documentRows : StoreFile → DocumentRows
  | .store content _ => content.documentRows
  | _ => fun _ => []

theorem StoreFile.lasting_documentRows : Lasting documentRows where
  fresh := by
    funext collection
    cases collection <;> rfl
  absent := by
    funext collection
    cases collection <;> rfl
  logged _ _ := rfl
  refusing content refusal := by
    funext collection
    cases collection <;> rfl
  migrate now content := by
    have hkept := Store.keepsRows_migrate now content
    funext collection
    cases collection with
    | projects => exact congrArg Table.rows hkept.projects.getD_eq
    | charts => exact congrArg Table.rows hkept.charts.getD_eq

namespace Workspace

def documentRows (workspace : Workspace) : DocumentRows :=
  workspace.storeFile.documentRows

theorem documentRows_closeStore (workspace : Workspace) :
    workspace.closeStore.documentRows = workspace.documentRows :=
  congrArg StoreFile.documentRows workspace.storeFile_closeStore

theorem documentRows_putStore (store : Store) (workspace : Workspace) :
    (workspace.putStore store).documentRows = store.documentRows :=
  view_putStore StoreFile.lasting_documentRows store workspace

theorem documentRows_openStore {now : String} {workspace opened : Workspace}
    {result : Except LedgerError Store} (h : workspace.openStore now = (result, opened)) :
    opened.documentRows = workspace.documentRows ∧
      ∀ store, result = .ok store → store.documentRows = workspace.documentRows :=
  view_openStore StoreFile.lasting_documentRows h

end Workspace

/-! ## Colors -/

def StoreFile.color? : StoreFile → String → Option String
  | .store content _ => content.color?
  | _ => fun _ => none

namespace Workspace

/-- The color that a canonical tag has in the store of a workspace. -/
def color? (workspace : Workspace) : String → Option String :=
  workspace.storeFile.color?

end Workspace

/-! ## Opened stores -/

namespace Opening

end Opening

end TagLedger
