/- digest: What the attachments of the public gateway leave open when their tasks are aborted. -/

import Bridgefu.Lib.Trace

set_option autoImplicit false

/-! An attachment task records what it opens, and cleans up at its end. The supervisor cleans up
after the tasks that it has aborted. Whoever comes first takes everything that is recorded.
Attachments are numbered here by their tasks, since a connection may use an identifier again. The
supervisor finds them by that identifier: it forgets the first of two attachments that have the same
one at a time, and takes no step for it. -/

namespace Bridgefu.Gateway

open Lib

inductive IngressKind where
  | uctp | native

inductive IngressResource where
  | control | route | broadcastLease | session | conversation
  deriving DecidableEq

open IngressResource

/-- The order in which a cleanup closes. A control sender is closed by removing it from the table
of routes. -/
def cleanupOrder : IngressKind → List IngressResource
  | .uctp => [control, route, broadcastLease, session, conversation]
  | .native => [control, route, session, conversation]

inductive CleanupStage where
  | waiting
  | closing (left : List IngressResource)
  | finished
  deriving DecidableEq

namespace CleanupStage

def left : CleanupStage → List IngressResource
  | .waiting | .finished => []
  | .closing left => left

def close : CleanupStage → CleanupStage × List IngressResource
  | .closing [] => (.finished, [])
  | .closing (resource :: rest) => (.closing rest, [resource])
  | stage => (stage, [])

end CleanupStage

/-- An attachment with its task. The last two fields tell what the task has recorded and which
closes have completed. -/
structure Attachment where
  owned : List IngressResource
  cleaned : Bool
  task : CleanupStage
  aborted : Bool
  supervisor : CleanupStage
  recorded : List IngressResource
  closed : List IngressResource

inductive AttachmentStep where
  | record (resource : IngressResource)
  | finish | close | abort | supervise | superviseClose

namespace Attachment

def initial : Attachment := ⟨[], false, .waiting, false, .waiting, [], []⟩

variable (kind : IngressKind) (self : Attachment)

/-- The start of `cleanup`: what it is going to close, and the attachment without it. -/
def cleanup : List IngressResource × Attachment :=
  if self.cleaned then ([], self)
  else ((cleanupOrder kind).filter (· ∈ self.owned), { self with cleaned := true, owned := [] })

/-- An aborted task takes no further step. Tasks are aborted after the loop of the supervisor. -/
def next (stopped : Bool) : AttachmentStep → Attachment
  | .record resource =>
    if self.task = .waiting ∧ self.aborted = false ∧ resource ∈ cleanupOrder kind ∧
        resource ∉ self.recorded then
      { self with owned := resource :: self.owned, recorded := resource :: self.recorded }
    else self
  | .finish =>
    if self.task = .waiting ∧ self.aborted = false then
      { (self.cleanup kind).2 with task := .closing (self.cleanup kind).1 }
    else self
  | .close =>
    if self.aborted = false then
      { self with task := self.task.close.1, closed := self.task.close.2 ++ self.closed }
    else self
  | .abort =>
    if stopped ∧ self.task ≠ .finished then { self with aborted := true } else self
  | .supervise =>
    if stopped ∧ (self.aborted ∨ self.task = .finished) ∧ self.supervisor = .waiting then
      { (self.cleanup kind).2 with supervisor := .closing (self.cleanup kind).1 }
    else self
  | .superviseClose =>
    { self with
      supervisor := self.supervisor.close.1
      closed := self.supervisor.close.2 ++ self.closed }

end Attachment

structure Ingress where
  stopped : Bool
  attachments : Nat → Attachment

inductive IngressStep where
  | stop
  | attachment (task : Nat) (step : AttachmentStep)

namespace Ingress

def initial : Ingress := ⟨false, fun _ => .initial⟩

def next (kind : IngressKind) (self : Ingress) : IngressStep → Ingress
  | .stop => { self with stopped := true }
  | .attachment task step => { self with
      attachments := Function.update self.attachments task
        ((self.attachments task).next kind self.stopped step) }

/-- The ingress after these steps. -/
def run (kind : IngressKind) (steps : List IngressStep) : Ingress := steps.foldl (next kind) initial

end Ingress

structure Attachment.Accounted (kind : IngressKind) (slot : Attachment) : Prop where
  known : ∀ resource ∈ slot.recorded, resource ∈ cleanupOrder kind
  nodup : slot.recorded.Nodup
  places : (slot.closed ++ (slot.task.left ++ slot.supervisor.left ++ slot.owned)).Perm slot.recorded
  taken : slot.cleaned = true → slot.owned = []
  running : slot.task = .waiting → slot.aborted = false →
    slot.cleaned = false ∧ slot.supervisor = .waiting
  cleans : slot.task ≠ .waiting ∨ slot.supervisor ≠ .waiting → slot.cleaned = true
  ceased : slot.aborted = true ∨ slot.supervisor ≠ .waiting → slot.task.left = []
  first : slot.task ≠ .waiting → slot.supervisor.left = []

namespace CleanupStage

private theorem close_left (stage : CleanupStage) :
    stage.left = stage.close.2 ++ stage.close.1.left := by
  unfold close
  split <;> rfl

private theorem close_waiting {stage : CleanupStage} :
    stage.close.1 = .waiting ↔ stage = .waiting := by
  unfold close
  split <;> simp_all

end CleanupStage

namespace Attachment.Accounted

private theorem initial (kind : IngressKind) : Attachment.initial.Accounted kind where
  known := nofun
  nodup := .nil
  places := .refl _
  taken _ := rfl
  running _ _ := ⟨rfl, rfl⟩
  cleans := by simp [Attachment.initial]
  ceased _ := rfl
  first _ := rfl

variable {kind : IngressKind} {slot : Attachment} (held : slot.Accounted kind)
include held

private theorem cleanup_eq : (slot.cleanup kind).2 =
    { slot with cleaned := true, owned := [] } := by
  unfold cleanup
  split_ifs with cleaned
  · simp only [← held.taken, ← cleaned]
  · rfl

private theorem cleanup (quiet : slot.task.left = []) (idle : slot.supervisor = .waiting) :
    (slot.closed ++ (slot.cleanup kind).1).Perm slot.recorded := by
  have places : (slot.closed ++ slot.owned).Perm slot.recorded := by
    have places := held.places
    rwa [quiet, idle] at places
  unfold Attachment.cleanup
  split_ifs with cleaned
  · rwa [held.taken cleaned] at places
  · have distinct := List.Nodup.of_append_right (places.nodup_iff.mpr held.nodup)
    have known : ∀ resource ∈ slot.owned, resource ∈ cleanupOrder kind := fun resource member =>
      held.known _ (places.subset (List.mem_append_right _ member))
    refine List.Perm.trans (List.Perm.append_left _ ?_) places
    refine (List.perm_ext_iff_of_nodup (List.Nodup.filter _ ?_) distinct).mpr fun resource => ?_
    · cases kind <;> decide
    · simpa using known resource

private theorem record (stopped : Bool) (resource : IngressResource) :
    (slot.next kind stopped (.record resource)).Accounted kind := by
  dsimp only [Attachment.next]
  split_ifs with allowed
  · obtain ⟨waits, alive, listed, new⟩ := allowed
    obtain ⟨fresh, -⟩ := held.running waits alive
    refine { held with
      known := List.forall_mem_cons.mpr ⟨listed, held.known⟩
      nodup := List.nodup_cons.mpr ⟨new, held.nodup⟩
      places := ?_, taken := fun cleaned => ?_ }
    · rw [← List.append_assoc]
      refine List.perm_middle.trans (List.Perm.cons _ ?_)
      rw [List.append_assoc]
      exact held.places
    · cases fresh.symm.trans cleaned
  · exact held

private theorem finish (stopped : Bool) : (slot.next kind stopped .finish).Accounted kind := by
  dsimp only [Attachment.next]
  split_ifs with running
  · obtain ⟨waits, alive⟩ := running
    obtain ⟨-, idle⟩ := held.running waits alive
    have places := held.cleanup (by rw [waits]; rfl) idle
    rw [held.cleanup_eq]
    refine { held with
      places := by simpa only [idle, CleanupStage.left, List.append_nil] using places
      taken := fun _ => rfl, running := nofun, cleans := fun _ => rfl, ceased := ?_
      first := fun _ => by rw [idle]; rfl }
    rintro (aborted | busy)
    · cases alive.symm.trans aborted
    · exact absurd idle busy
  · exact held

private theorem close (stopped : Bool) : (slot.next kind stopped .close).Accounted kind := by
  dsimp only [Attachment.next]
  split_ifs with alive
  · have places := held.places
    rw [slot.task.close_left, List.append_assoc, List.append_assoc] at places
    refine { held with
      places := ?_
      running := fun waits => held.running (CleanupStage.close_waiting.mp waits)
      cleans := fun busy => held.cleans (busy.imp_left (mt CleanupStage.close_waiting.mpr))
      first := fun busy => held.first (mt CleanupStage.close_waiting.mpr busy), ceased := ?_ }
    · simp only [List.append_assoc]
      exact (List.perm_append_comm_assoc ..).trans places
    · rintro (aborted | busy)
      · cases alive.symm.trans aborted
      · have none := held.ceased (.inr busy)
        rw [slot.task.close_left] at none
        exact (List.append_eq_nil_iff.mp none).2
  · exact held

private theorem abort (stopped : Bool) (quiet : slot.task.left = []) :
    (slot.next kind stopped .abort).Accounted kind := by
  dsimp only [Attachment.next]
  split
  · exact { held with running := nofun, ceased := fun _ => quiet }
  · exact held

private theorem supervise (stopped : Bool) :
    (slot.next kind stopped .supervise).Accounted kind := by
  dsimp only [Attachment.next]
  split_ifs with ends
  · obtain ⟨-, ended, idle⟩ := ends
    have quiet : slot.task.left = [] := by
      rcases ended with aborted | finished
      · exact held.ceased (.inl aborted)
      · rw [finished]
        rfl
    have places := held.cleanup quiet idle
    rw [held.cleanup_eq]
    refine { held with
      places := by rwa [quiet, List.append_nil]
      taken := fun _ => rfl, running := fun waits alive => ?_, cleans := fun _ => rfl
      ceased := fun _ => quiet, first := fun busy => ?_ }
    · rcases ended with aborted | finished
      · cases alive.symm.trans aborted
      · cases waits.symm.trans finished
    · -- the task has taken everything before
      show (slot.cleanup kind).1 = []
      rw [Attachment.cleanup, if_pos (held.cleans (.inl busy))]
  · exact held

private theorem superviseClose (stopped : Bool) :
    (slot.next kind stopped .superviseClose).Accounted kind := by
  dsimp only [Attachment.next]
  by_cases idle : slot.supervisor = .waiting
  · obtain ⟨⟩ := slot
    subst idle
    exact held
  · have quiet := held.ceased (.inr idle)
    have places := held.places
    rw [quiet, slot.supervisor.close_left, List.nil_append, List.append_assoc] at places
    refine { held with
      places := ?_, running := fun waits alive => absurd (held.running waits alive).2 idle
      cleans := fun _ => held.cleans (.inr idle), ceased := fun _ => quiet
      first := fun busy => ?_ }
    · rw [quiet, List.append_assoc]
      exact (List.perm_append_comm_assoc ..).trans places
    · have none := held.first busy
      rw [slot.supervisor.close_left] at none
      exact (List.append_eq_nil_iff.mp none).2

theorem next (stopped : Bool) {step} (spared : step = .abort → slot.task.left = []) :
    (slot.next kind stopped step).Accounted kind := by
  cases step with
  | record resource => exact held.record stopped resource
  | finish => exact held.finish stopped
  | close => exact held.close stopped
  | abort => exact held.abort stopped (spared rfl)
  | supervise => exact held.supervise stopped
  | superviseClose => exact held.superviseClose stopped

end Attachment.Accounted

namespace Sample

end Sample

end Bridgefu.Gateway
