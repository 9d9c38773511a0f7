import PasteQueue.Proofs.Interleaving.Custody
import PasteQueue.Proofs.Interleaving.Watched

/-!
What becomes of a copy by somebody else. It keeps an update due until it is read, and then history ends
with it, unless the program writes before any update has read it: the number on the clipboard is the
program's own then, and no update reads.
-/

namespace PasteQueue

open Clipboard (Content)
open Controller (Errand Operation)

/-- An update reads the clipboard. -/
def Moment.looks (moment : Moment) : Bool :=
  match moment.world.errand? moment.choice with
  | some (_, _, .looking) => true
  | _ => false

/-- The program has written before any update has read. -/
def Overtaken (newer : List Moment) : Prop :=
  ∃ later moment earlier, newer = later ++ moment :: earlier ∧ moment.written?.isSome = true ∧
    ∀ before ∈ earlier, before.looks = false

theorem overtaken_cons {moment : Moment} {newer : List Moment} :
    Overtaken (moment :: newer) ↔
      (moment.written?.isSome = true ∧ ∀ before ∈ newer, before.looks = false) ∨ Overtaken newer := by
  constructor
  · rintro ⟨later, write, earlier, split, written, unread⟩
    cases later with
    | nil =>
      cases split
      exact .inl ⟨written, unread⟩
    | cons latest later =>
      cases split
      exact .inr ⟨later, write, earlier, rfl, written, unread⟩
  · rintro (⟨written, unread⟩ | ⟨later, write, earlier, rfl, written, unread⟩)
    · exact ⟨[], moment, newer, rfl, written, unread⟩
    · exact ⟨moment :: later, write, earlier, rfl, written, unread⟩

/-! ### What a step does to the watcher and to history -/

namespace World

variable {world after : World} {choice : Choice}

theorem looks_call {strand : StrandId} {operation : Operation} {errand : Errand}
    (task : world.tasks strand = some ⟨operation, .calling errand⟩) :
    Moment.looks ⟨world, .call strand⟩ = true ↔ errand = .looking := by
  simp only [Moment.looks, errand?_call task]
  cases errand <;> simp

theorem Step.history (taken : world.Step choice after) (blind : Moment.looks ⟨world, choice⟩ = false) :
    after.controller.state.history = world.controller.state.history := by
  cases taken with
  | start free => exact (Controller.launch_steady world.controller _).history
  | request task =>
    rename_i strand operation stage
    cases stage <;> rfl
  | resume task opened => exact (Controller.approach_steady world.controller _).history
  | call task =>
    refine (Controller.complete_steady world.controller _ ?_).history
    intro looking
    rw [(looks_call task).mpr looking] at blind
    cases blind
  | external content => exact (Controller.copy_steady world.controller content).history
  | fail | pass => rfl

theorem looking_of_looks (looks : Moment.looks ⟨world, choice⟩ = true) :
    ∃ strand operation, choice = .call strand ∧
      world.tasks strand = some ⟨operation, .calling .looking⟩ := by
  unfold Moment.looks at looks
  split at looks
  · rename_i strand operation calls
    exact ⟨strand, operation, errand?_eq_some calls⟩
  · cases looks

theorem Step.looked (taken : world.Step choice after) (looks : Moment.looks ⟨world, choice⟩ = true)
    (readable : world.controller.desktop.scripts.Sound .read) :
    Moment.written? ⟨world, choice⟩ = none ∧
    after.controller.desktop.current = world.controller.desktop.current ∧
    (world.controller.desktop.current.content.kind ≠ .empty →
      after.controller.state.Remembers world.controller.desktop.current.content) := by
  obtain ⟨strand, operation, rfl, task⟩ := looking_of_looks looks
  have nothing : world.written? (.call strand) = none := by
    rw [written?_call task]
    rfl
  refine ⟨nothing, (taken.traced.kept nothing (by intro content same; cases same)).1, ?_⟩
  intro something
  cases taken with
  | call called =>
    cases task.symm.trans called
    obtain ⟨item, outcome⟩ := world.controller.desktop.read_of_sound readable
    have content := Desktop.read_content _ outcome
    change (Controller.look strand world.controller).2.state.Remembers _
    rw [Controller.look_state strand outcome, ← content]
    refine Queue.State.accept_remembers _ ?_ _
    simpa [Clipboard.Item.isEmpty, Clipboard.Item.kind, content] using something

/-! ### When nobody is about to look -/

/-- No update has passed its check and not yet read. -/
def Blind (world : World) : Prop :=
  ∀ strand operation, world.tasks strand ≠ some ⟨operation, .calling .looking⟩

/-- An update comes to look by its check alone, and not at a change of the program. -/
theorem Step.looker (taken : world.Step choice after) {strand : StrandId} {operation : Operation}
    (looker : after.tasks strand = some ⟨operation, .calling .looking⟩) :
    world.tasks strand = some ⟨operation, .calling .looking⟩ ∨
      choice = .resume strand ∧
        world.controller.state.isEcho world.controller.desktop.seenSequence = false := by
  by_cases own : choice.strand? = some strand
  · right
    cases taken with
    | start free =>
      cases own
      rename_i starting
      have launched := Controller.launch_launched world.controller starting
      rw [put_tasks] at looker
      obtain ⟨point, came, same⟩ := Option.map_eq_some_iff.mp looker
      cases same
      have outside := (launched.outside _ came).1
      cases outside
    | request task =>
      cases own
      rw [move_tasks] at looker
      cases looker
    | resume task opened =>
      cases own
      rename_i resumed stage
      rw [put_tasks] at looker
      obtain ⟨point, came, same⟩ := Option.map_eq_some_iff.mp looker
      cases same
      refine ⟨rfl, ?_⟩
      have approached := Controller.approach_approached world.controller stage
      have family := approached.family _ came
      cases stage with
      | checking =>
        dsimp only [Controller.approach, Controller.check] at came
        split at came
        · cases came
        · rename_i unknown
          exact Bool.eq_false_iff.mpr unknown
      | toggling | copying | saving | placing | settling | lingering | returning => cases family
    | call task =>
      cases own
      rw [put_tasks, Controller.approach_point?] at looker
      obtain ⟨point, came, same⟩ := Option.map_eq_some_iff.mp looker
      cases same
      obtain ⟨stage, -, same⟩ := Option.map_eq_some_iff.mp came
      cases same
    | external | fail | pass => cases own
  · left
    rw [← taken.others own]
    exact looker

theorem Step.blind (taken : world.Step choice after) (blind : world.Blind)
    (echo : world.controller.state.isEcho world.controller.desktop.seenSequence = true) :
    after.Blind := by
  intro strand operation looker
  rcases taken.looker looker with before | ⟨-, unknown⟩
  · exact blind strand operation before
  · rw [echo] at unknown
    cases unknown

theorem Step.blind_of_write (taken : world.Step choice after) (gated : world.Gated)
    (writes : (Moment.written? ⟨world, choice⟩).isSome = true) : after.Blind := by
  obtain ⟨⟨writer, writing, item⟩, written⟩ := Option.isSome_iff_exists.mp writes
  obtain ⟨⟨caller, operation, errand⟩, calls, written⟩ := Option.bind_eq_some_iff.mp written
  obtain ⟨rfl, task⟩ := errand?_eq_some calls
  obtain ⟨_, put, -⟩ := Option.map_eq_some_iff.mp written
  have writes := (Desktop.written?_eq_some.mp put).1
  intro strand other looker
  -- whoever is about to look is inside the write gate, and so is the writer
  rcases taken.looker looker with before | ⟨same, -⟩
  · have looks : world.role Point.writeRole strand = .inside := role_of_task _ before
    have calls : world.role Point.writeRole caller = .inside := by
      rw [role_of_task _ task]
      cases errand with
      | bringingBack | copying | placing | returning => rfl
      | keeping | looking | saving | pressing | typing => cases writes
    cases gated.write.unique looks calls
    cases task.symm.trans before
    cases writes
  · cases same

/-! ### The update that is due -/

/-- The worker is going to update, or has not yet checked or read in the update under way. -/
def Due (worker : StrandId) (world : World) : Prop :=
  ∃ watcher, world.controller.watcher = some watcher ∧
    (watcher.pending = true ∨ watcher.phase = .debouncing ∨
      watcher.phase = .updating ∧ ∃ point, world.tasks worker = some ⟨.update, point⟩)

theorem Step.updates_on (taken : world.Step choice after) (gated : world.Gated) {worker : StrandId}
    {point : Point} (held : world.tasks worker = some ⟨.update, point⟩)
    (blind : Moment.looks ⟨world, choice⟩ = false)
    (unknown : world.controller.state.isEcho world.controller.desktop.seenSequence = false) :
    ∃ next, after.tasks worker = some ⟨.update, next⟩ := by
  by_cases own : choice.strand? = some worker
  · have family := gated.family worker _ held
    cases taken with
    | start free =>
      cases own
      cases free.symm.trans held
    | request task =>
      cases own
      cases task.symm.trans held
      exact ⟨_, move_tasks _ _ _⟩
    | resume task opened =>
      cases own
      cases task.symm.trans held
      rename_i stage
      cases stage with
      | checking =>
        refine ⟨.calling .looking, ?_⟩
        rw [put_tasks]
        dsimp only [Controller.approach, Controller.check]
        rw [if_neg (by simp [unknown])]
        rfl
      | toggling | copying | saving | placing | settling | lingering | returning => cases family
    | call task =>
      cases own
      cases task.symm.trans held
      rename_i errand
      cases errand with
      | looking => cases ((looks_call task).mpr rfl).symm.trans blind
      | keeping | bringingBack | copying | saving | placing | pressing | returning | typing =>
        cases family
    | external | fail | pass => cases own
  · exact ⟨point, (taken.others own).trans held⟩

theorem Due.step {worker : StrandId} (due : world.Due worker) (gated : world.Gated)
    (taken : world.Step choice after) (blind : Moment.looks ⟨world, choice⟩ = false)
    (unknown : world.controller.state.isEcho world.controller.desktop.seenSequence = false) :
    after.Due worker := by
  obtain ⟨watcher, watched, due⟩ := due
  have goesOn : watcher.phase = .updating ∧ (∃ point, world.tasks worker = some ⟨.update, point⟩) →
      watcher.phase = .updating ∧ ∃ point, after.tasks worker = some ⟨.update, point⟩ := by
    rintro ⟨updating, point, held⟩
    exact ⟨updating, taken.updates_on gated held blind unknown⟩
  rcases taken.watching.watcher with same | ⟨-, notified⟩
  · exact ⟨watcher, same.trans watched, due.imp_right (.imp_right goesOn)⟩
  · refine ⟨watcher.notify, by rw [notified, watched]; rfl, ?_⟩
    rw [Watcher.notify_phase]
    exact due.imp watcher.notify_of_pending (.imp_right goesOn)

theorem Attended.due {content : Content} (attended : world.Attended)
    (taken : world.Step (.external content) after) (worker : StrandId) : after.Due worker := by
  obtain ⟨watcher, watched, -, runs⟩ := attended.watcher
  cases taken with
  | external =>
    refine ⟨watcher.notify, ?_, .inl (Watcher.notify_pending runs)⟩
    change (world.controller.copy content).watcher = _
    rw [Controller.copy_watcher attended.hooked, watched]
    rfl

end World

/-! ### What becomes of a copy -/

section Copy

variable {newer older : List Moment} {copied : World} {content : Content}

theorem changes_of_unshared
    (alone : ∀ moment ∈ newer, ∀ other, moment.choice ≠ .external other) :
    changes newer = (writes newer).map fun _ => .program := by
  induction newer with
  | nil => rfl
  | cons moment newer ih =>
    have rest := ih fun moment member => alone moment (.tail _ member)
    rcases moment.change_cases with ⟨other, external, -⟩ | ⟨_, _, _, written, author⟩ |
      ⟨kept, -, author⟩
    · exact absurd external (alone moment (.head _) other)
    · rw [changes, writes, List.filterMap_cons_some author, List.filterMap_cons_some written,
        List.map_cons]
      exact congrArg _ rest
    · rw [changes, writes, List.filterMap_cons_none author, List.filterMap_cons_none kept]
      exact rest

theorem changes_head_since (alone : ∀ moment ∈ newer, ∀ other, moment.choice ≠ .external other) :
    (changes (newer ++ ⟨copied, .external content⟩ :: older)).head? = some .program ↔
      writes newer ≠ [] := by
  have split : changes (newer ++ ⟨copied, .external content⟩ :: older) =
      (writes newer).map (fun _ => .program) ++ .other :: changes older := by
    rw [← changes_of_unshared alone]
    exact List.filterMap_append
  rw [split]
  cases writes newer <;> simp

theorem Overtaken.writes (overtaken : Overtaken newer) : writes newer ≠ [] := by
  obtain ⟨later, moment, earlier, rfl, written, -⟩ := overtaken
  obtain ⟨write, written⟩ := Option.isSome_iff_exists.mp written
  have member : write ∈ PasteQueue.writes (later ++ moment :: earlier) :=
    List.mem_filterMap.mpr ⟨moment, by simp, written⟩
  exact List.ne_nil_of_mem member

/-- What has become of a copy as long as nobody else copies: it is still to be read, it has been read
in time, or the program has written over it first. -/
inductive Aftermath (content : Content) (copied : World) (newer : List Moment) (world : World) : Prop
  | awaited (unread : ∀ moment ∈ newer, moment.looks = false) (unwritten : writes newer = [])
      (shown : world.controller.desktop.current.content = content)
      (history : world.controller.state.history = copied.controller.state.history) :
      Aftermath content copied newer world
  | remembered (read : ∃ moment ∈ newer, moment.looks = true) (timely : ¬ Overtaken newer)
      (shown : writes newer = [] → world.controller.desktop.current.content = content)
      (blind : writes newer ≠ [] → world.Blind)
      (remembers : world.controller.state.Remembers content) : Aftermath content copied newer world
  | lost (overtaken : Overtaken newer) (blind : world.Blind)
      (history : world.controller.state.history = copied.controller.state.history) :
      Aftermath content copied newer world

variable {world after : World} {choice : Choice}

theorem Aftermath.begin (taken : copied.Step (.external content) after) :
    Aftermath content copied [] after := by
  have shown := (taken.traced.copied content rfl).1
  have history := taken.history rfl
  exact .awaited (by simp) rfl shown history

theorem Aftermath.turn (aftermath : Aftermath content copied newer world) (watcher : Watcher) :
    Aftermath content copied newer (world.withWatcher watcher) := by
  cases aftermath with
  | awaited unread unwritten shown history => exact .awaited unread unwritten shown history
  | remembered read timely shown blind remembers => exact .remembered read timely shown blind remembers
  | lost overtaken blind history => exact .lost overtaken blind history

section Step

variable (aftermath : Aftermath content copied newer world) (gated : world.Gated)
  (taken : world.Step choice after)

include aftermath taken

theorem Aftermath.step_look (looks : Moment.looks ⟨world, choice⟩ = true)
    (readable : world.controller.desktop.scripts.Sound .read) (something : content.kind ≠ .empty) :
    Aftermath content copied (⟨world, choice⟩ :: newer) after := by
  obtain ⟨kept, current, remembers⟩ := taken.looked looks readable
  have same : writes (⟨world, choice⟩ :: newer) = writes newer := List.filterMap_cons_none kept
  have seeing : ¬ world.Blind := by
    intro blind
    obtain ⟨strand, operation, -, task⟩ := World.looking_of_looks looks
    exact blind strand operation task
  -- as long as nothing has been written, the copy is what is read
  have found : ∀ timely : ¬ Overtaken newer, writes newer = [] →
      world.controller.desktop.current.content = content →
      Aftermath content copied (⟨world, choice⟩ :: newer) after := by
    intro timely unwritten shown
    rw [shown] at remembers
    refine .remembered ⟨_, .head _, looks⟩ ?_ (fun _ => current ▸ shown) ?_ (remembers something)
    · rw [overtaken_cons, kept]
      exact fun overtaken => overtaken.elim (fun wrote => nomatch wrote.1) timely
    · intro written
      exact absurd (same.trans unwritten) written
  cases aftermath with
  | awaited unread unwritten shown history =>
    exact found (fun overtaken => overtaken.writes unwritten) unwritten shown
  | remembered read timely shown blind _ =>
    by_cases unwritten : writes newer = []
    · exact found timely unwritten (shown unwritten)
    · exact absurd (blind unwritten) seeing
  | lost overtaken blind history => exact absurd blind seeing

include gated

theorem Aftermath.step_write (writes : (Moment.written? ⟨world, choice⟩).isSome = true)
    (unseen : Moment.looks ⟨world, choice⟩ = false) :
    Aftermath content copied (⟨world, choice⟩ :: newer) after := by
  have blind := taken.blind_of_write gated writes
  have history := taken.history unseen
  cases aftermath with
  | awaited unread unwritten shown same =>
    exact .lost (overtaken_cons.mpr (.inl ⟨writes, unread⟩)) blind (history.trans same)
  | remembered read timely shown _ remembers =>
    obtain ⟨moment, member, looks⟩ := read
    refine .remembered ⟨moment, .tail _ member, looks⟩ ?_ ?_ (fun _ => blind) ?_
    · rw [overtaken_cons]
      rintro (⟨-, unread⟩ | overtaken)
      · rw [unread moment member] at looks
        cases looks
      · exact timely overtaken
    · intro unwritten
      obtain ⟨write, written⟩ := Option.isSome_iff_exists.mp writes
      rw [PasteQueue.writes, List.filterMap_cons_some written] at unwritten
      cases unwritten
    · exact (Queue.State.Remembers.of_history history).mpr remembers
  | lost overtaken _ same =>
    exact .lost (overtaken_cons.mpr (.inr overtaken)) blind (history.trans same)

omit gated

theorem Aftermath.step_still (kept : Moment.written? ⟨world, choice⟩ = none)
    (alone : ∀ other, choice ≠ .external other) (unseen : Moment.looks ⟨world, choice⟩ = false)
    (echo : writes newer ≠ [] →
      world.controller.state.isEcho world.controller.desktop.seenSequence = true) :
    Aftermath content copied (⟨world, choice⟩ :: newer) after := by
  have same : writes (⟨world, choice⟩ :: newer) = writes newer := List.filterMap_cons_none kept
  have current := (taken.traced.kept kept alone).1
  have history := taken.history unseen
  have overtaken_iff : Overtaken (⟨world, choice⟩ :: newer) ↔ Overtaken newer := by
    rw [overtaken_cons, kept]
    simp
  cases aftermath with
  | awaited unread unwritten shown before =>
    refine .awaited ?_ (same.trans unwritten) (current ▸ shown) (history.trans before)
    rintro moment (_ | ⟨_, member⟩)
    · exact unseen
    · exact unread moment member
  | remembered read timely shown blind remembers =>
    obtain ⟨moment, member, looks⟩ := read
    refine .remembered ⟨moment, .tail _ member, looks⟩ (overtaken_iff.not.mpr timely) ?_ ?_
      ((Queue.State.Remembers.of_history history).mpr remembers)
    · rw [same, current]
      exact shown
    · rw [same]
      exact fun written => taken.blind (blind written) (echo written)
  | lost overtaken blind before =>
    exact .lost (overtaken_iff.mpr overtaken) (taken.blind blind (echo overtaken.writes))
      (history.trans before)

end Step

theorem Aftermath.step (aftermath : Aftermath content copied newer world) (gated : world.Gated)
    (taken : world.Step choice after) (readable : world.controller.desktop.scripts.Sound .read)
    (something : content.kind ≠ .empty) (alone : ∀ other, choice ≠ .external other)
    (echo : writes newer ≠ [] →
      world.controller.state.isEcho world.controller.desktop.seenSequence = true) :
    Aftermath content copied (⟨world, choice⟩ :: newer) after := by
  cases looks : Moment.looks ⟨world, choice⟩ with
  | true => exact aftermath.step_look taken looks readable something
  | false =>
    cases written : Moment.written? ⟨world, choice⟩ with
    | some write => exact aftermath.step_write gated taken (by rw [written]; rfl) looks
    | none => exact aftermath.step_still taken written alone looks echo

theorem changes_length_cons (moment : Moment) (past : List Moment) :
    (changes past).length ≤ (changes (moment :: past)).length :=
  ((List.sublist_cons_self moment past).filterMap Moment.author?).length_le

end Copy

/-- The copy lies that far back: nobody else has copied since, and no number has come round. -/
structure SinceCopy (content : Content) (copied : World) (newer older past : List Moment) : Prop where
  split : past = newer ++ ⟨copied, .external content⟩ :: older
  alone : ∀ moment ∈ newer, ∀ other, moment.choice ≠ .external other
  few : (changes past).length < 2 ^ 32

theorem SinceCopy.cons {content : Content} {copied : World} {moment : Moment}
    {newer older past : List Moment} (since : SinceCopy content copied newer older (moment :: past)) :
    (newer = [] ∧ moment = ⟨copied, .external content⟩) ∨
      ∃ rest, newer = moment :: rest ∧ SinceCopy content copied rest older past ∧
        ∀ other, moment.choice ≠ .external other := by
  obtain ⟨split, alone, few⟩ := since
  cases newer with
  | nil =>
    cases split
    exact .inl ⟨rfl, rfl⟩
  | cons latest rest =>
    cases split
    have alone := List.forall_mem_cons.mp alone
    exact .inr ⟨rest, rfl, ⟨rfl, alone.2, Nat.lt_of_le_of_lt (changes_length_cons _ _) few⟩, alone.1⟩

namespace WatchedRun

variable {worker : StrandId} {start world copied : World} {past newer older : List Moment}
  {content : Content}

/-- The check of an update knows a change of the program's own by its number. -/
theorem echo_since (run : WatchedRun worker start past world) (fresh : start.Fresh)
    (since : SinceCopy content copied newer older past) :
    world.controller.state.isEcho world.controller.desktop.seenSequence = true ↔
      writes newer ≠ [] := by
  rw [(run.counted fresh).isEcho_iff since.few, since.split, changes_head_since since.alone]

theorem aftermath (run : WatchedRun worker start past world) (fresh : start.Fresh)
    (readable : start.controller.desktop.scripts.Sound .read)
    (clear : ∀ moment ∈ past, moment.choice.LetsRead)
    (since : SinceCopy content copied newer older past) (something : content.kind ≠ .empty) :
    Aftermath content copied newer world := by
  induction run generalizing newer with
  | rest =>
    have split := since.split
    simp at split
  | step run taken apart ih =>
    -- either this is the copy itself, or the copy lies one step less far back in the run before
    have clear := (List.forall_mem_cons.mp clear).2
    rcases since.cons with ⟨rfl, first⟩ | ⟨newer, rfl, since, alone⟩
    · cases first
      exact .begin taken
    · exact (ih clear since).step (run.gated fresh) taken (run.readable readable clear) something alone
        (run.echo_since fresh since).mpr
  | receive run watched free ih => exact (ih clear since).turn _
  | drain run watched rested taken ih =>
    have clear := (List.forall_mem_cons.mp clear).2
    rcases since.cons with ⟨rfl, first⟩ | ⟨newer, rfl, since, alone⟩
    · cases first
    · exact ((ih clear since).turn _).step ((run.gated fresh).turn _) taken
        (run.readable readable clear) something alone (run.echo_since fresh since).mpr

/-- Until it is read or written over, a copy keeps an update due. -/
theorem due (run : WatchedRun worker start past world) (wired : start.Wired)
    (since : SinceCopy content copied newer older past)
    (unread : ∀ moment ∈ newer, moment.looks = false)
    (unwritten : ∀ moment ∈ newer, moment.written? = none) : world.Due worker := by
  induction run generalizing newer with
  | rest =>
    have split := since.split
    simp at split
  | step run taken apart ih =>
    rcases since.cons with ⟨rfl, first⟩ | ⟨newer, rfl, since, -⟩
    · cases first
      exact (run.attended wired).due taken worker
    · obtain ⟨blind, unread⟩ := List.forall_mem_cons.mp unread
      have unwritten := (List.forall_mem_cons.mp unwritten).2
      have unknown := (run.echo_since wired.toFresh since).not.mpr
        (not_not.mpr (List.filterMap_eq_nil_iff.mpr unwritten))
      exact (ih since unread unwritten).step (run.gated wired.toFresh) taken blind
        (Bool.eq_false_iff.mpr unknown)
  | receive run watched free ih =>
    obtain ⟨_, same, due⟩ := ih since unread unwritten
    cases same.symm.trans watched
    refine ⟨_, rfl, .inr (.inl ?_)⟩
    -- only a worker that is waiting takes a notification, so one must have been pending
    rcases due with pending | debouncing | ⟨updating, point, held⟩
    · unfold Watcher.receive
      rw [if_pos pending]
    · rcases free with idle | ⟨updating, -⟩
      · cases idle.symm.trans debouncing
      · cases updating.symm.trans debouncing
    · rcases free with idle | ⟨-, nothing⟩
      · cases idle.symm.trans updating
      · cases nothing.symm.trans held
  | drain run watched rested taken ih =>
    cases taken with
    | start free => exact ⟨_, rfl, .inr (.inr ⟨rfl, _, World.put_tasks _ _ _⟩)⟩

end WatchedRun

/-- Once the worker has come to rest, the newest entry of history counts as the same as the latest copy
exactly if the program has not written before an update has read it, or the newest entry did so
before. -/
theorem copy_remembered_iff {worker : StrandId} {start world copied : World}
    {past newer older : List Moment} {content : Content} {watcher : Watcher} (wired : start.Wired)
    (readable : start.controller.desktop.scripts.Sound .read)
    (run : WatchedRun worker start past world) (clear : ∀ moment ∈ past, moment.choice.LetsRead)
    (few : (changes past).length < 2 ^ 32)
    (split : past = newer ++ ⟨copied, .external content⟩ :: older)
    (latest : ∀ moment ∈ newer, ∀ other, moment.choice ≠ .external other)
    (something : content.kind ≠ .empty) (watched : world.controller.watcher = some watcher)
    (idle : watcher.phase = .idle) (nothing : watcher.pending = false) :
    world.controller.state.Remembers content ↔
      (Overtaken newer → copied.controller.state.Remembers content) := by
  have since : SinceCopy content copied newer older past := ⟨split, latest, few⟩
  cases run.aftermath wired.toFresh readable clear since something with
  | awaited unread unwritten shown history =>
    obtain ⟨_, same, due⟩ := run.due wired since unread (List.filterMap_eq_nil_iff.mp unwritten)
    cases same.symm.trans watched
    simp [idle, nothing] at due
  | remembered read timely shown blind remembers =>
    exact iff_of_true remembers fun overtaken => absurd overtaken timely
  | lost overtaken blind history =>
    rw [Queue.State.Remembers.of_history history]
    simp [overtaken]

/-- Neither a copy of somebody else nor a failure to come. -/
def Choice.isOwn : Choice → Bool
  | .start .. | .request _ | .resume _ | .call _ | .pass _ => true
  | .external _ | .fail .. => false

theorem own_of_choices {newer : List Moment} {choices : List Choice}
    (made : newer.map Moment.choice = choices) (own : choices.all Choice.isOwn = true) :
    ∀ moment ∈ newer, (∀ other, moment.choice ≠ .external other) ∧
      ∀ call script, moment.choice ≠ .fail call script := by
  intro moment member
  have kind := List.all_eq_true.mp own moment.choice (made ▸ List.mem_map_of_mem member)
  constructor
  · intro other same
    rw [same] at kind
    cases kind
  · intro call script same
    rw [same] at kind
    cases kind

/-- A clipboard with a text on it, where somebody else is about to copy another. -/
def beforeCopy : World := World.wired {} (.text "U") 30

def afterCopy : World := beforeCopy.withController (beforeCopy.controller.copy (.text "X"))

def copying : List Moment := [⟨beforeCopy, .external (.text "X")⟩]

theorem afterCopy_run : WatchedRun 2 beforeCopy copying afterCopy :=
  .step .rest (.external (.text "X")) nofun

theorem unfailing_since_copying {past newer : List Moment} (split : past = newer ++ copying)
    (own : ∀ moment ∈ newer, ∀ call script, moment.choice ≠ .fail call script) :
    ∀ moment ∈ past, ∀ call script, moment.choice ≠ .fail call script := by
  intro moment member
  rw [split] at member
  rcases List.mem_append.mp member with later | first
  · exact own moment later
  · cases List.mem_singleton.mp first
    exact nofun

/-- The worker lets the debounce time pass and updates, as far as the check. -/
def updating : List Doing :=
  [.receive, .take (.pass 30), .drain, .take (.request 2), .take (.resume 2)]

def undisturbed : List Doing := updating ++ [.take (.call 2), .receive]

theorem copy_remembered_undisturbed :
    (afterCopy.playedBeside 2 copying undisturbed rfl).2.controller.state.Remembers (.text "X") := by
  obtain ⟨run, newer, split, choices⟩ := afterCopy_run.played undisturbed rfl
  have own := own_of_choices choices rfl
  have unwritten : writes newer = [] := by
    have nothing : writes (newer ++ copying) = [] := by
      rw [← split]
      rfl
    rw [writes, List.filterMap_append] at nothing
    exact (List.append_eq_nil_iff.mp nothing).1
  refine (copy_remembered_iff (World.wired_wired {} _ 30) ?_ run ?_ (by decide) split
    (fun moment member => (own moment member).1) (by decide) rfl rfl rfl).mpr
    fun overtaken => absurd unwritten overtaken.writes
  · intro entry member
    cases member
  · intro moment member script failing
    exact absurd failing (unfailing_since_copying split (fun other later => (own other later).2)
      moment member .read script)

/-- A macro is pasted while the worker lets the debounce time pass. -/
def disturbed : List Doing :=
  .receive :: pasteHalfway.map .take ++ updating.tail ++ [.receive] ++ pasteToEnd.map .take ++
    updating ++ [.receive]

/-- Both updates find a number of the program's own: that of the pasted text, and that of the copy as it
is put back. -/
theorem copy_lost :
    ¬ ∀ (worker : StrandId) (start world copied : World) (past newer older : List Moment)
      (content : Content) (watcher : Watcher), start.Wired → start.controller.desktop.scripts = {} →
      WatchedRun worker start past world →
      (∀ moment ∈ past, ∀ call script, moment.choice ≠ .fail call script) →
      past = newer ++ ⟨copied, .external content⟩ :: older →
      (∀ moment ∈ newer, ∀ other, moment.choice ≠ .external other) → content.kind ≠ .empty →
      world.controller.watcher = some watcher → watcher.phase = .idle → watcher.pending = false →
      world.Idle → world.controller.state.Remembers content := by
  intro claim
  obtain ⟨run, newer, split, choices⟩ := afterCopy_run.played disturbed rfl
  have own := own_of_choices choices rfl
  have clear := unfailing_since_copying split fun moment later => (own moment later).2
  have idle : (afterCopy.playedBeside 2 copying disturbed rfl).2.Idle := fun strand =>
    match strand with
    | 0 => rfl
    | 1 => rfl
    | 2 => rfl
    | _ + 3 => rfl
  obtain ⟨newest, last, -⟩ := claim 2 _ _ _ _ newer [] _ _ (World.wired_wired {} (.text "U") 30) rfl run
    clear split (fun moment member => (own moment member).1) (by decide) rfl rfl rfl idle
  have nothing : (afterCopy.playedBeside 2 copying disturbed rfl).2.controller.state.history.getLast? =
    none := rfl
  cases nothing.symm.trans last

end PasteQueue
