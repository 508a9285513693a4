import KoiNet.Foundation.Execution
import KoiNet.Foundation.LastWriter
import Mathlib.Algebra.Order.BigOperators.Group.Finset
import Mathlib.Algebra.Ring.Nat

/-!
# Spreading versions through a network

Every node keeps a last-writer-wins register for each key.  A node that takes
a version sends it to the nodes it is linked to, all but the one it came from.
What is sent arrives in any order, perhaps more than once, but is not lost.

If equal digests mean equal stamps, then a network that has come to rest
agrees along its links, and it comes to rest after a bounded number of steps
in which nothing arrives twice.
-/

namespace Foundation.Gossip

/-- A version that a node has yet to look at, and where it came from. -/
structure Waiting (ι V : Type) where
  source : Option ι
  version : V

/-- A version on its way. -/
structure Message (ι V : Type) where
  target : ι
  version : V

/-- What one node holds. -/
@[ext]
structure Place (ι K V : Type) where
  stored : K → Option V
  waiting : List (Waiting ι V)
  sent : List (Message ι V)

abbrev State (ι K V : Type) : Type := ι → Place ι K V

inductive Action (ι V : Type) where
  | publish (node : ι) (version : V)
  | progress
  | repetition

structure Protocol (ι K V T D : Type) where
  key : V → K
  stamp : V → T
  digest : V → D
  members : Finset ι
  links : ι → K → List ι

section Definitions

variable {ι K V T D : Type} [DecidableEq ι] [DecidableEq K] [LinearOrder T]
  (protocol : Protocol ι K V T D)

namespace Place

variable (place : Place ι K V)

def enqueue (source : Option ι) (version : V) : Place ι K V :=
  { place with waiting := place.waiting ++ [{ source, version }] }

/-- The register of the version's key is empty or is replaced by it. -/
def Accepts (version : V) : Prop :=
  ∀ old, place.stored (protocol.key version) = some old →
    LastWriter.Replaces protocol.stamp protocol.digest version old

/-- The register of the version's key holds one that is not older. -/
def Holds (version : V) : Prop :=
  ∃ held, place.stored (protocol.key version) = some held ∧
    protocol.stamp version ≤ protocol.stamp held

end Place

/-- The messages about a version that came from the source. -/
def Protocol.forward (node : ι) (source : Option ι) (version : V) :
    List (Message ι V) :=
  ((protocol.links node (protocol.key version)).filter
    fun target => source ≠ some target).map fun target => { target, version }

/-- The version is stored and sent on. -/
def Protocol.taken (node : ι) (source : Option ι) (version : V)
    (rest : List (Waiting ι V)) (place : Place ι K V) : Place ι K V :=
  { stored := Function.update place.stored (protocol.key version) (some version)
    waiting := rest
    sent := place.sent ++ protocol.forward node source version }

/-- What the nodes do, and what happens to what they have sent. -/
inductive Protocol.Step :
    Action ι V → State ι K V → State ι K V → Prop where
  | publish (state : State ι K V) (node : ι) (version : V) :
      node ∈ protocol.members →
      Step (.publish node version) state
        (Function.update state node ((state node).enqueue none version))
  | take (state : State ι K V) (node : ι) (source : Option ι) (version : V)
      (rest : List (Waiting ι V)) :
      node ∈ protocol.members →
      (state node).waiting = { source, version } :: rest →
      (state node).Accepts protocol version →
      Step .progress state (Function.update state node
        (protocol.taken node source version rest (state node)))
  | skip (state : State ι K V) (node : ι) (source : Option ι) (version : V)
      (rest : List (Waiting ι V)) :
      node ∈ protocol.members →
      (state node).waiting = { source, version } :: rest →
      ¬(state node).Accepts protocol version →
      Step .progress state
        (Function.update state node { state node with waiting := rest })
  | deliver (state : State ι K V) (node target : ι) (version : V)
      (earlier later : List (Message ι V)) :
      node ∈ protocol.members → target ∈ protocol.members → target ≠ node →
      (state node).sent = earlier ++ { target, version } :: later →
      Step .progress state (Function.update
        (Function.update state node
          { state node with sent := earlier ++ later })
        target ((state target).enqueue (some node) version))
  | again (state : State ι K V) (node target : ι) (version : V)
      (earlier later : List (Message ι V)) :
      node ∈ protocol.members → target ∈ protocol.members → target ≠ node →
      (state node).sent = earlier ++ { target, version } :: later →
      Step .repetition state (Function.update state target
        ((state target).enqueue (some node) version))
  | leave (state : State ι K V) (node target : ι) (version : V)
      (earlier later : List (Message ι V)) :
      node ∈ protocol.members → ¬(target ∈ protocol.members ∧ target ≠ node) →
      (state node).sent = earlier ++ { target, version } :: later →
      Step .progress state (Function.update state node
        { state node with sent := earlier ++ later })

/-- Nothing waits and nothing is on its way. -/
def Protocol.AtRest (state : State ι K V) : Prop :=
  ∀ node ∈ protocol.members,
    (state node).waiting = [] ∧ (state node).sent = []

/-- A node of the network sends versions with the key to another one. -/
def Protocol.Linked (key : K) (node target : ι) : Prop :=
  node ∈ protocol.members ∧ target ∈ protocol.members ∧
    target ∈ protocol.links node key

/-- Along every link, the target holds what is stored at the node. -/
def Protocol.Agrees (state : State ι K V) : Prop :=
  ∀ key node target, protocol.Linked key node target → target ≠ node →
    ∀ version, (state node).stored key = some version →
      (state target).Holds protocol version

/-- Versions with the same key and digest have the same stamp. -/
def Protocol.Coherent (known : V → Prop) : Prop :=
  ∀ left right, known left → known right →
    protocol.key left = protocol.key right →
    protocol.digest left = protocol.digest right →
    protocol.stamp left = protocol.stamp right

/-- The node holds the version or one that is newer, or will look at one. -/
def Protocol.Due (state : State ι K V) (node : ι) (version : V) : Prop :=
  (state node).Holds protocol version ∨
    ∃ newer, protocol.key newer = protocol.key version ∧
      protocol.stamp version ≤ protocol.stamp newer ∧
      ((∃ source, { source, version := newer } ∈ (state node).waiting) ∨
        ∃ other ∈ protocol.members, other ≠ node ∧
          { target := node, version := newer } ∈ (state other).sent)

/-- What holds in every run: registers hold known versions of their key,
whoever has sent a version holds it, and what is stored at a node is due along
its links. -/
structure Protocol.Invariant (known : V → Prop) (state : State ι K V) :
    Prop where
  stored : ∀ node ∈ protocol.members, ∀ key version,
    (state node).stored key = some version →
      protocol.key version = key ∧ known version
  waiting : ∀ node ∈ protocol.members, ∀ waiting ∈ (state node).waiting,
    known waiting.version ∧ ∀ source, waiting.source = some source →
      (state source).Holds protocol waiting.version
  sent : ∀ node ∈ protocol.members, ∀ message ∈ (state node).sent,
    known message.version ∧ (state node).Holds protocol message.version
  linked : ∀ key node target, protocol.Linked key node target →
    target ≠ node → ∀ version, (state node).stored key = some version →
      protocol.Due state target version

end Definitions

section Steps

variable {ι K V T D : Type} [DecidableEq ι] [DecidableEq K] [LinearOrder T]
  {protocol : Protocol ι K V T D} {known : V → Prop}
  {state next : State ι K V} {action : Action ι V}

/-- What a step does to one node. -/
inductive Protocol.Changes (protocol : Protocol ι K V T D)
    (action : Action ι V) (state next : State ι K V) (node : ι) : Prop where
  | same :
      next node = state node → Changes protocol action state next node
  | publishes (version : V) :
      action = .publish node version →
      next node = (state node).enqueue none version →
      Changes protocol action state next node
  | receives (other : ι) (version : V) :
      other ∈ protocol.members →
      { target := node, version } ∈ (state other).sent →
      next node = (state node).enqueue (some other) version →
      Changes protocol action state next node
  | takes (source : Option ι) (version : V) (rest : List (Waiting ι V)) :
      (state node).waiting = { source, version } :: rest →
      (state node).Accepts protocol version →
      next node = protocol.taken node source version rest (state node) →
      Changes protocol action state next node
  | skips (source : Option ι) (version : V) (rest : List (Waiting ι V)) :
      (state node).waiting = { source, version } :: rest →
      ¬(state node).Accepts protocol version →
      next node = { state node with waiting := rest } →
      Changes protocol action state next node
  | sends (message : Message ι V) (earlier later : List (Message ι V)) :
      (state node).sent = earlier ++ message :: later →
      next node = { state node with sent := earlier ++ later } →
      (message.target ∈ protocol.members → message.target ≠ node →
        ∃ source, { source, version := message.version } ∈
          (next message.target).waiting) →
      Changes protocol action state next node

omit [DecidableEq ι] [DecidableEq K] in
theorem mem_enqueue (place : Place ι K V) (source : Option ι) (version : V) :
    { source, version } ∈ (place.enqueue source version).waiting := by
  unfold Place.enqueue
  simp

theorem Protocol.Step.changes (step : protocol.Step action state next)
    (node : ι) : protocol.Changes action state next node := by
  cases step with
  | publish _ publisher version member =>
      by_cases here : node = publisher
      · subst here
        exact .publishes version rfl (Function.update_self _ _ _)
      · exact .same (Function.update_of_ne here _ _)
  | take _ taker source version rest member waiting accepts =>
      by_cases here : node = taker
      · subst here
        exact .takes source version rest waiting accepts
          (Function.update_self _ _ _)
      · exact .same (Function.update_of_ne here _ _)
  | skip _ skipper source version rest member waiting refused =>
      by_cases here : node = skipper
      · subst here
        exact .skips source version rest waiting refused
          (Function.update_self _ _ _)
      · exact .same (Function.update_of_ne here _ _)
  | deliver _ sender target version earlier later member listed apart sent =>
      by_cases arrives : node = target
      · subst arrives
        refine .receives sender version member ?_ (Function.update_self _ _ _)
        rw [sent]
        simp
      · by_cases leaves : node = sender
        · subst leaves
          refine .sends { target, version } earlier later sent ?_ ?_
          · rw [Function.update_of_ne arrives, Function.update_self]
          · intro _ _
            refine ⟨some node, ?_⟩
            rw [Function.update_self]
            exact mem_enqueue _ _ _
        · apply Changes.same
          rw [Function.update_of_ne arrives, Function.update_of_ne leaves]
  | again _ sender target version earlier later member listed apart sent =>
      by_cases arrives : node = target
      · subst arrives
        refine .receives sender version member ?_ (Function.update_self _ _ _)
        rw [sent]
        simp
      · exact .same (Function.update_of_ne arrives _ _)
  | leave _ sender target version earlier later member outside sent =>
      by_cases leaves : node = sender
      · subst leaves
        refine .sends { target, version } earlier later sent
          (Function.update_self _ _ _) ?_
        intro listed apart
        exact absurd ⟨listed, apart⟩ outside
      · exact .same (Function.update_of_ne leaves _ _)

theorem Place.Holds.taken {place : Place ι K V} {version held : V} {node : ι}
    {source : Option ι} {rest : List (Waiting ι V)}
    (holds : place.Holds protocol held)
    (accepts : place.Accepts protocol version) :
    (protocol.taken node source version rest place).Holds protocol held := by
  obtain ⟨old, stored, notOlder⟩ := holds
  by_cases same : protocol.key held = protocol.key version
  · rw [same] at stored
    have replaced := accepts old stored
    refine ⟨version, ?_, notOlder.trans (le_of_lt replaced.2)⟩
    unfold Protocol.taken
    dsimp only
    rw [same, Function.update_self]
  · refine ⟨old, ?_, notOlder⟩
    unfold Protocol.taken
    dsimp only
    rw [Function.update_of_ne same, stored]

theorem holds_taken (node : ι) (source : Option ι) (version : V)
    (rest : List (Waiting ι V)) (place : Place ι K V) :
    (protocol.taken node source version rest place).Holds protocol version :=
  ⟨version, Function.update_self _ _ _, le_refl _⟩

omit [DecidableEq ι] [DecidableEq K] in
/-- Who holds a newer version of the same key holds the older one. -/
theorem Place.Holds.older {place : Place ι K V} {version newer : V}
    (holds : place.Holds protocol newer)
    (sameKey : protocol.key newer = protocol.key version)
    (notOlder : protocol.stamp version ≤ protocol.stamp newer) :
    place.Holds protocol version := by
  obtain ⟨held, stored, atLeast⟩ := holds
  rw [sameKey] at stored
  exact ⟨held, stored, notOlder.trans atLeast⟩

omit [DecidableEq ι] [DecidableEq K] in
/-- A version that is not accepted is held already. -/
theorem holds_of_not_accepts (coherent : protocol.Coherent known)
    {place : Place ι K V} {version : V} (isKnown : known version)
    (stored : ∀ key version, place.stored key = some version →
      protocol.key version = key ∧ known version)
    (refused : ¬place.Accepts protocol version) :
    place.Holds protocol version := by
  unfold Place.Accepts at refused
  push Not at refused
  obtain ⟨old, present, keeps⟩ := refused
  obtain ⟨named, oldKnown⟩ := stored _ old present
  refine ⟨old, present, ?_⟩
  rcases LastWriter.not_replaces_iff.mp keeps with same | notNewer
  · exact (coherent version old isKnown oldKnown named.symm same).le
  · exact notNewer

theorem Protocol.Step.holds (step : protocol.Step action state next)
    {node : ι} {version : V} (holds : (state node).Holds protocol version) :
    (next node).Holds protocol version := by
  cases step.changes node with
  | same unchanged =>
      rw [unchanged]
      exact holds
  | publishes _ _ unchanged =>
      rw [unchanged]
      exact holds
  | receives _ _ _ _ unchanged =>
      rw [unchanged]
      exact holds
  | takes _ _ _ _ accepts changed =>
      rw [changed]
      exact holds.taken accepts
  | skips _ _ _ _ _ unchanged =>
      rw [unchanged]
      exact holds
  | sends _ _ _ _ unchanged _ =>
      rw [unchanged]
      exact holds

theorem Protocol.Step.due_of_waiting (coherent : protocol.Coherent known)
    (invariant : protocol.Invariant known state)
    (step : protocol.Step action state next) {node : ι}
    (member : node ∈ protocol.members) {version newer : V}
    {source : Option ι}
    (sameKey : protocol.key newer = protocol.key version)
    (notOlder : protocol.stamp version ≤ protocol.stamp newer)
    (waits : { source, version := newer } ∈ (state node).waiting) :
    protocol.Due next node version := by
  have stillWaits : { source, version := newer } ∈ (next node).waiting →
      protocol.Due next node version :=
    fun still => .inr ⟨newer, sameKey, notOlder, .inl ⟨source, still⟩⟩
  have known := (invariant.waiting node member _ waits).1
  cases step.changes node with
  | same unchanged =>
      apply stillWaits
      rw [unchanged]
      exact waits
  | publishes _ _ changed =>
      apply stillWaits
      rw [changed]
      exact List.mem_append_left _ waits
  | receives _ _ _ _ changed =>
      apply stillWaits
      rw [changed]
      exact List.mem_append_left _ waits
  | takes first head rest waiting _ changed =>
      rw [waiting] at waits
      rcases List.mem_cons.mp waits with isHead | later
      · left
        cases isHead
        rw [changed]
        exact (holds_taken node source newer rest (state node)).older sameKey
          notOlder
      · apply stillWaits
        rw [changed]
        exact later
  | skips first head rest waiting refused changed =>
      rw [waiting] at waits
      rcases List.mem_cons.mp waits with isHead | later
      · left
        cases isHead
        have holds := holds_of_not_accepts coherent known
          (invariant.stored node member) refused
        exact step.holds (holds.older sameKey notOlder)
      · apply stillWaits
        rw [changed]
        exact later
  | sends _ _ _ _ unchanged _ =>
      apply stillWaits
      rw [unchanged]
      exact waits

/-- What is on its way to a node waits there in the end. -/
theorem Protocol.Step.due_of_sent (step : protocol.Step action state next)
    {node other : ι} (member : node ∈ protocol.members)
    (sender : other ∈ protocol.members) (apart : other ≠ node)
    {version newer : V}
    (sameKey : protocol.key newer = protocol.key version)
    (notOlder : protocol.stamp version ≤ protocol.stamp newer)
    (onItsWay : { target := node, version := newer } ∈ (state other).sent) :
    protocol.Due next node version := by
  have stillSent : { target := node, version := newer } ∈
      (next other).sent → protocol.Due next node version :=
    fun still =>
      .inr ⟨newer, sameKey, notOlder, .inr ⟨other, sender, apart, still⟩⟩
  cases step.changes other with
  | same unchanged =>
      apply stillSent
      rw [unchanged]
      exact onItsWay
  | publishes _ _ unchanged =>
      apply stillSent
      rw [unchanged]
      exact onItsWay
  | receives _ _ _ _ unchanged =>
      apply stillSent
      rw [unchanged]
      exact onItsWay
  | takes _ _ _ _ _ changed =>
      apply stillSent
      rw [changed]
      exact List.mem_append_left _ onItsWay
  | skips _ _ _ _ _ unchanged =>
      apply stillSent
      rw [unchanged]
      exact onItsWay
  | sends message earlier later sent changed arrives =>
      by_cases isMessage : message = { target := node, version := newer }
      · subst isMessage
        obtain ⟨source, waits⟩ := arrives member (Ne.symm apart)
        exact .inr ⟨newer, sameKey, notOlder, .inl ⟨source, waits⟩⟩
      · apply stillSent
        rw [sent] at onItsWay
        rw [changed]
        simpa [Ne.symm isMessage] using onItsWay

theorem Protocol.Step.due (coherent : protocol.Coherent known)
    (invariant : protocol.Invariant known state)
    (step : protocol.Step action state next) {node : ι}
    (member : node ∈ protocol.members) {version : V}
    (due : protocol.Due state node version) :
    protocol.Due next node version := by
  rcases due with holds | ⟨newer, sameKey, notOlder, coming⟩
  · exact .inl (step.holds holds)
  · rcases coming with ⟨source, waits⟩ | ⟨other, sender, apart, onItsWay⟩
    · exact step.due_of_waiting coherent invariant member sameKey notOlder waits
    · exact step.due_of_sent member sender apart sameKey notOlder onItsWay

/-- A node stores what it has stored before and what it takes. -/
theorem Protocol.Changes.stored {node : ι} {key : K} {version : V}
    (changes : protocol.Changes action state next node)
    (stored : (next node).stored key = some version) :
    (state node).stored key = some version ∨
      key = protocol.key version ∧ ∃ source rest,
        (state node).waiting = { source, version } :: rest ∧
          next node = protocol.taken node source version rest (state node) := by
  cases changes with
  | same unchanged => exact .inl (unchanged ▸ stored)
  | publishes _ _ unchanged => exact .inl (by rwa [unchanged] at stored)
  | receives _ _ _ _ unchanged => exact .inl (by rwa [unchanged] at stored)
  | takes source head rest queue _ changed =>
      by_cases same : key = protocol.key head
      · subst same
        have isHead : head = version := by
          rw [changed] at stored
          unfold taken at stored
          dsimp only at stored
          rw [Function.update_self] at stored
          exact Option.some.inj stored
        subst isHead
        exact .inr ⟨rfl, source, rest, queue, changed⟩
      · left
        rw [changed] at stored
        unfold taken at stored
        dsimp only at stored
        rw [Function.update_of_ne same] at stored
        exact stored
  | skips _ _ _ _ _ unchanged => exact .inl (by rwa [unchanged] at stored)
  | sends _ _ _ _ unchanged _ => exact .inl (by rwa [unchanged] at stored)

/-- What waits at a node has waited there, is published or has been sent. -/
theorem Protocol.Changes.waiting {node : ι} {waiting : Waiting ι V}
    (changes : protocol.Changes action state next node)
    (waits : waiting ∈ (next node).waiting) :
    waiting ∈ (state node).waiting ∨
      (action = .publish node waiting.version ∧ waiting.source = none) ∨
      ∃ other ∈ protocol.members, waiting.source = some other ∧
        { target := node, version := waiting.version } ∈
          (state other).sent := by
  cases changes with
  | same unchanged => exact .inl (unchanged ▸ waits)
  | publishes version isPublished changed =>
      rw [changed] at waits
      rcases List.mem_append.mp waits with already | added
      · exact .inl already
      · cases List.mem_singleton.mp added
        exact .inr (.inl ⟨isPublished, rfl⟩)
  | receives other version sender onItsWay changed =>
      rw [changed] at waits
      rcases List.mem_append.mp waits with already | added
      · exact .inl already
      · cases List.mem_singleton.mp added
        exact .inr (.inr ⟨other, sender, rfl, onItsWay⟩)
  | takes _ _ _ queue _ changed =>
      left
      rw [changed] at waits
      rw [queue]
      exact List.mem_cons_of_mem _ waits
  | skips _ _ _ queue _ changed =>
      left
      rw [changed] at waits
      rw [queue]
      exact List.mem_cons_of_mem _ waits
  | sends _ _ _ _ unchanged _ => exact .inl (by rwa [unchanged] at waits)

/-- A node has sent what it had sent before and what it takes. -/
theorem Protocol.Changes.sent {node : ι} {message : Message ι V}
    (changes : protocol.Changes action state next node)
    (sent : message ∈ (next node).sent) :
    message ∈ (state node).sent ∨ ∃ source rest,
      (state node).waiting = { source, version := message.version } :: rest ∧
        next node = protocol.taken node source message.version rest
          (state node) := by
  cases changes with
  | same unchanged => exact .inl (unchanged ▸ sent)
  | publishes _ _ unchanged => exact .inl (by rwa [unchanged] at sent)
  | receives _ _ _ _ unchanged => exact .inl (by rwa [unchanged] at sent)
  | takes source head rest queue _ changed =>
      have among := sent
      rw [changed] at among
      rcases List.mem_append.mp among with already | added
      · exact .inl already
      · obtain ⟨target, _, rfl⟩ := List.mem_map.mp added
        exact .inr ⟨source, rest, queue, changed⟩
  | skips _ _ _ _ _ unchanged => exact .inl (by rwa [unchanged] at sent)
  | sends removed earlier later all changed _ =>
      left
      rw [changed] at sent
      rw [all]
      rcases List.mem_append.mp sent with inEarlier | inLater
      · exact List.mem_append_left _ inEarlier
      · exact List.mem_append_right _ (List.mem_cons_of_mem _ inLater)

omit [DecidableEq ι] [DecidableEq K] in
theorem mem_of_queue {place : Place ι K V} {first : Waiting ι V}
    {rest : List (Waiting ι V)} (queue : place.waiting = first :: rest) :
    first ∈ place.waiting := by
  rw [queue]
  exact List.mem_cons_self

theorem Protocol.Step.invariant_waiting
    (invariant : protocol.Invariant known state)
    (step : protocol.Step action state next)
    (published : ∀ node version, action = .publish node version →
      known version) {node : ι} (member : node ∈ protocol.members)
    {waiting : Waiting ι V} (waits : waiting ∈ (next node).waiting) :
    known waiting.version ∧ ∀ source, waiting.source = some source →
      (next source).Holds protocol waiting.version := by
  rcases (step.changes node).waiting waits with
    already | ⟨isPublished, sourceless⟩ | ⟨other, sender, sourced, onItsWay⟩
  · obtain ⟨isKnown, held⟩ := invariant.waiting node member waiting already
    exact ⟨isKnown, fun source came => step.holds (held source came)⟩
  · refine ⟨published node waiting.version isPublished, ?_⟩
    intro source came
    rw [sourceless] at came
    cases came
  · obtain ⟨isKnown, held⟩ := invariant.sent other sender _ onItsWay
    refine ⟨isKnown, ?_⟩
    intro source came
    cases sourced.symm.trans came
    exact step.holds held

theorem Protocol.Step.invariant_sent (invariant : protocol.Invariant known state)
    (step : protocol.Step action state next) {node : ι}
    (member : node ∈ protocol.members) {message : Message ι V}
    (sent : message ∈ (next node).sent) :
    known message.version ∧ (next node).Holds protocol message.version := by
  rcases (step.changes node).sent sent with already |
    ⟨source, rest, queue, changed⟩
  · obtain ⟨isKnown, held⟩ := invariant.sent node member message already
    exact ⟨isKnown, step.holds held⟩
  · refine ⟨(invariant.waiting node member _ (mem_of_queue queue)).1, ?_⟩
    rw [changed]
    exact holds_taken node source message.version rest (state node)

/-- A version that is taken is due wherever the node is linked: it is sent
there, or that is where it came from. -/
theorem Protocol.Step.due_of_taken (invariant : protocol.Invariant known state)
    (step : protocol.Step action state next) {node target : ι} {version : V}
    {source : Option ι} {rest : List (Waiting ι V)}
    (linked : protocol.Linked (protocol.key version) node target)
    (apart : target ≠ node)
    (queue : (state node).waiting = { source, version } :: rest)
    (changed : next node =
      protocol.taken node source version rest (state node)) :
    protocol.Due next target version := by
  obtain ⟨member, _, link⟩ := linked
  by_cases came : source = some target
  · left
    have held := (invariant.waiting node member _ (mem_of_queue queue)).2
    exact step.holds (held target came)
  · right
    refine ⟨version, rfl, le_refl _, .inr ⟨node, member, Ne.symm apart, ?_⟩⟩
    rw [changed]
    apply List.mem_append_right
    apply List.mem_map.mpr
    exact ⟨target, List.mem_filter.mpr ⟨link, by simpa using came⟩, rfl⟩

theorem Protocol.Step.invariant (coherent : protocol.Coherent known)
    (invariant : protocol.Invariant known state)
    (step : protocol.Step action state next)
    (published : ∀ node version, action = .publish node version →
      known version) : protocol.Invariant known next := by
  constructor
  · intro node member key version stored
    rcases (step.changes node).stored stored with already |
      ⟨sameKey, source, rest, queue, _⟩
    · exact invariant.stored node member key version already
    · exact ⟨sameKey.symm,
        (invariant.waiting node member _ (mem_of_queue queue)).1⟩
  · intro node member waiting waits
    exact step.invariant_waiting invariant published member waits
  · intro node member message sent
    exact step.invariant_sent invariant member sent
  · intro key node target linked apart version stored
    rcases (step.changes node).stored stored with already |
      ⟨sameKey, source, rest, queue, changed⟩
    · exact step.due coherent invariant linked.2.1
        (invariant.linked key node target linked apart version already)
    · subst sameKey
      exact step.due_of_taken invariant linked apart queue changed

omit [DecidableEq ι] [DecidableEq K] in
/-- A network that agrees and is at rest can start. -/
theorem Protocol.Agrees.invariant (agrees : protocol.Agrees state)
    (atRest : protocol.AtRest state)
    (stored : ∀ node ∈ protocol.members, ∀ key version,
      (state node).stored key = some version →
        protocol.key version = key ∧ known version) :
    protocol.Invariant known state := by
  constructor
  · exact stored
  · intro node member waiting waits
    rw [(atRest node member).1] at waits
    cases waits
  · intro node member message sent
    rw [(atRest node member).2] at sent
    cases sent
  · intro key node target linked apart version present
    exact .inl (agrees key node target linked apart version present)

omit [DecidableEq ι] [DecidableEq K] in
theorem Protocol.Due.holds {node : ι} {version : V}
    (due : protocol.Due state node version)
    (member : node ∈ protocol.members) (atRest : protocol.AtRest state) :
    (state node).Holds protocol version := by
  rcases due with holds | ⟨newer, _, _, coming⟩
  · exact holds
  · rcases coming with ⟨source, waits⟩ | ⟨other, sender, _, onItsWay⟩
    · rw [(atRest node member).1] at waits
      cases waits
    · rw [(atRest other sender).2] at onItsWay
      cases onItsWay

end Steps

section Runs

variable {ι K V T D : Type} [DecidableEq ι] [DecidableEq K] [LinearOrder T]
  {protocol : Protocol ι K V T D} {known : V → Prop}
  {first last : State ι K V} {actions : List (Action ι V)}

theorem Protocol.Invariant.trace (initial : protocol.Invariant known first)
    (coherent : protocol.Coherent known)
    (trace : Trace protocol.Step actions first last)
    (published : ∀ node version, .publish node version ∈ actions →
      known version) : protocol.Invariant known last := by
  refine trace.labelled.invariant ?_ initial
  intro action state next invariant step
  apply step.2.invariant coherent invariant
  intro node version isPublished
  apply published node version
  rw [← isPublished]
  exact step.1

theorem Protocol.Invariant.due_trace
    (initial : protocol.Invariant known first)
    (coherent : protocol.Coherent known)
    (trace : Trace protocol.Step actions first last)
    (published : ∀ node version, .publish node version ∈ actions →
      known version) {node : ι} (member : node ∈ protocol.members)
    {version : V} (due : protocol.Due first node version) :
    protocol.Due last node version := by
  let inv (state : State ι K V) : Prop :=
    protocol.Invariant known state ∧ protocol.Due state node version
  have kept : inv last := by
    apply trace.labelled.invariant ?_ (show inv first from ⟨initial, due⟩)
    intro action state next held step
    refine ⟨?_, step.2.due coherent held.1 member held.2⟩
    apply step.2.invariant coherent held.1
    intro publisher other isPublished
    apply published publisher other
    rw [← isPublished]
    exact step.1
  exact kept.2

theorem Protocol.Invariant.due_of_published
    (initial : protocol.Invariant known first)
    (coherent : protocol.Coherent known)
    (trace : Trace protocol.Step actions first last)
    (published : ∀ node version, .publish node version ∈ actions →
      known version) {node : ι} {version : V}
    (isPublished : .publish node version ∈ actions) :
    node ∈ protocol.members ∧ protocol.Due last node version := by
  obtain ⟨early, late, split⟩ := List.append_of_mem isPublished
  subst split
  obtain ⟨before, prior, rest⟩ := Trace.append_iff.mp trace
  have earlyKnown : ∀ node version, .publish node version ∈ early →
      known version :=
    fun node version among =>
      published node version (List.mem_append_left _ among)
  have invariant := initial.trace coherent prior earlyKnown
  cases rest with
  | @cons _ _ _ after _ step rest =>
      cases step with
      | publish _ _ _ member =>
          let after := Function.update before node
            ((before node).enqueue none version)
          have step : protocol.Step (.publish node version) before after :=
            .publish before node version member
          have waits : { source := none, version } ∈ (after node).waiting := by
            unfold after
            rw [Function.update_self]
            exact mem_enqueue _ _ _
          have due : protocol.Due after node version :=
            .inr ⟨version, rfl, le_refl _, .inl ⟨none, waits⟩⟩
          have started : protocol.Invariant known after := by
            apply step.invariant coherent invariant
            intro publisher other same
            cases same
            exact published node version (by simp)
          refine ⟨member, started.due_trace coherent rest ?_ member due⟩
          intro publisher other among
          exact published publisher other
            (List.mem_append_right _ (List.mem_cons_of_mem _ among))

omit [DecidableEq ι] [DecidableEq K] in
theorem Protocol.Invariant.agrees (invariant : protocol.Invariant known last)
    (atRest : protocol.AtRest last) : protocol.Agrees last := by
  intro key node target linked apart version stored
  exact (invariant.linked key node target linked apart version stored).holds
    linked.2.1 atRest

omit [DecidableEq ι] [DecidableEq K] in
/-- What is held at a node is held wherever the links lead. -/
theorem Protocol.Agrees.holds (agrees : protocol.Agrees last)
    (named : ∀ node ∈ protocol.members, ∀ key version,
      (last node).stored key = some version → protocol.key version = key)
    {key : K} {node target : ι} {version : V}
    (isKey : protocol.key version = key)
    (holds : (last node).Holds protocol version)
    (path : Relation.ReflTransGen (protocol.Linked key) node target) :
    (last target).Holds protocol version := by
  induction path with
  | refl => exact holds
  | @tail between target _ linked induction =>
      obtain ⟨held, stored, notOlder⟩ := induction
      rw [isKey] at stored
      by_cases apart : target = between
      · subst apart
        refine ⟨held, ?_, notOlder⟩
        rw [isKey]
        exact stored
      · have heldKey := named between linked.1 key held stored
        exact (agrees key between target linked apart held stored).older
          (heldKey.trans isKey.symm) notOlder

/-- A network that has come to rest agrees along its links, and what was
published is held wherever the links lead. -/
theorem Protocol.Invariant.settles (initial : protocol.Invariant known first)
    (coherent : protocol.Coherent known)
    (trace : Trace protocol.Step actions first last)
    (published : ∀ node version, .publish node version ∈ actions →
      known version)
    (atRest : protocol.AtRest last) :
    protocol.Agrees last ∧
      ∀ node version, .publish node version ∈ actions → ∀ target,
        Relation.ReflTransGen (protocol.Linked (protocol.key version)) node
          target → (last target).Holds protocol version := by
  have invariant := initial.trace coherent trace published
  have agrees := invariant.agrees atRest
  refine ⟨agrees, ?_⟩
  intro node version isPublished target path
  obtain ⟨member, due⟩ :=
    initial.due_of_published coherent trace published isPublished
  refine agrees.holds ?_ rfl (due.holds member atRest) path
  intro node member key version stored
  exact (invariant.stored node member key version stored).1

omit [DecidableEq ι] [DecidableEq K] in
/-- Who holds the newest of the known versions has it stored. -/
theorem Place.Holds.eq_newest {place : Place ι K V} {newest : V}
    (holds : place.Holds protocol newest)
    (stored : ∀ key version, place.stored key = some version →
      protocol.key version = key ∧ known version)
    (isNewest : ∀ version, known version →
      protocol.key version = protocol.key newest →
      protocol.stamp newest ≤ protocol.stamp version → version = newest) :
    place.stored (protocol.key newest) = some newest := by
  obtain ⟨held, present, notOlder⟩ := holds
  obtain ⟨sameKey, isKnown⟩ := stored _ held present
  rw [present, isNewest held isKnown sameKey notOlder]

end Runs

section Rest

variable {ι K V T D : Type} [DecidableEq ι] [DecidableEq K] [LinearOrder T]
  {protocol : Protocol ι K V T D} {known : V → Prop}
  {state next first last : State ι K V} {action : Action ι V}

/-- Every version that waits at some node or is on its way is known. -/
structure Protocol.Circulates (protocol : Protocol ι K V T D)
    (known : V → Prop) (state : State ι K V) : Prop where
  waiting : ∀ node ∈ protocol.members, ∀ waiting ∈ (state node).waiting,
    known waiting.version
  sent : ∀ node ∈ protocol.members, ∀ message ∈ (state node).sent,
    known message.version

/-- Every version that some node of the network has is known. -/
structure Protocol.Carries (protocol : Protocol ι K V T D) (known : V → Prop)
    (state : State ι K V) : Prop
    extends Protocol.Circulates protocol known state where
  stored : ∀ node ∈ protocol.members, ∀ key version,
    (state node).stored key = some version → known version

theorem Protocol.Step.circulates (step : protocol.Step action state next)
    (circulates : protocol.Circulates known state)
    (published : ∀ node version, action = .publish node version →
      known version) : protocol.Circulates known next := by
  constructor
  · intro node member waiting waits
    rcases (step.changes node).waiting waits with
      already | ⟨isPublished, _⟩ | ⟨other, sender, _, onItsWay⟩
    · exact circulates.waiting node member waiting already
    · exact published node waiting.version isPublished
    · exact circulates.sent other sender _ onItsWay
  · intro node member message sent
    rcases (step.changes node).sent sent with already | ⟨_, _, queue, _⟩
    · exact circulates.sent node member message already
    · exact circulates.waiting node member _ (mem_of_queue queue)

theorem Protocol.Step.carries (step : protocol.Step action state next)
    (carries : protocol.Carries known state)
    (published : ∀ node version, action = .publish node version →
      known version) : protocol.Carries known next := by
  refine ⟨step.circulates carries.toCirculates published, ?_⟩
  intro node member key version stored
  rcases (step.changes node).stored stored with already |
    ⟨_, _, _, queue, _⟩
  · exact carries.stored node member key version already
  · exact carries.waiting node member _ (mem_of_queue queue)

theorem Protocol.Carries.trace {actions : List (Action ι V)}
    (carries : protocol.Carries known first)
    (trace : Trace protocol.Step actions first last)
    (published : ∀ node version, .publish node version ∈ actions →
      known version) : protocol.Carries known last := by
  apply trace.labelled.invariant ?_ carries
  intro action state next held step
  apply step.2.carries held
  intro node version isPublished
  apply published node version
  rw [← isPublished]
  exact step.1

omit [DecidableEq ι] [DecidableEq K] in
theorem not_holds_of_accepts {place : Place ι K V} {version : V}
    (accepts : place.Accepts protocol version) :
    ¬place.Holds protocol version := by
  intro holds
  obtain ⟨held, stored, notOlder⟩ := holds
  exact absurd (accepts held stored).2 (not_lt.mpr notOlder)

open Classical in
/-- What a version can still cost at a node: it may be sent along every link,
and be delivered there. -/
noncomputable def Protocol.cost (protocol : Protocol ι K V T D) (node : ι)
    (place : Place ι K V) (version : V) : ℕ :=
  if place.Holds protocol version then 0
  else 2 * (protocol.links node (protocol.key version)).length + 1

/-- A bound on the steps that a node and its messages are still good for. -/
noncomputable def Protocol.load (protocol : Protocol ι K V T D)
    (versions : List V) (node : ι) (place : Place ι K V) : ℕ :=
  (versions.map (protocol.cost node place)).sum +
    2 * place.sent.length + place.waiting.length

noncomputable def Protocol.burden (protocol : Protocol ι K V T D)
    (versions : List V) (state : State ι K V) : ℕ :=
  ∑ node ∈ protocol.members, protocol.load versions node (state node)

theorem cost_taken_le (node : ι) {source : Option ι} {version : V}
    {rest : List (Waiting ι V)} {place : Place ι K V}
    (accepts : place.Accepts protocol version) (other : V) :
    protocol.cost node (protocol.taken node source version rest place) other ≤
      protocol.cost node place other := by
  unfold Protocol.cost
  by_cases holds : place.Holds protocol other
  · rw [if_pos (holds.taken accepts)]
    exact Nat.zero_le _
  · rw [if_neg holds]
    split
    · exact Nat.zero_le _
    · exact le_refl _

theorem sum_cost_taken (node : ι) (source : Option ι) {version : V}
    (rest : List (Waiting ι V)) {place : Place ι K V}
    (accepts : place.Accepts protocol version) {versions : List V}
    (listed : version ∈ versions) :
    (versions.map (protocol.cost node
        (protocol.taken node source version rest place))).sum +
        (2 * (protocol.links node (protocol.key version)).length + 1) ≤
      (versions.map (protocol.cost node place)).sum := by
  obtain ⟨earlier, later, split⟩ := List.append_of_mem listed
  have none : protocol.cost node
      (protocol.taken node source version rest place) version = 0 :=
    if_pos (holds_taken node source version rest place)
  have full : protocol.cost node place version =
      2 * (protocol.links node (protocol.key version)).length + 1 :=
    if_neg (not_holds_of_accepts accepts)
  have less (part : List V) :
      (part.map (protocol.cost node
        (protocol.taken node source version rest place))).sum ≤
        (part.map (protocol.cost node place)).sum :=
    List.sum_le_sum fun other _ => cost_taken_le node accepts other
  have early := less earlier
  have late := less later
  rw [split]
  simp only [List.map_append, List.map_cons, List.sum_append, List.sum_cons,
    none, full]
  omega

omit [DecidableEq K] [LinearOrder T] in
theorem length_forward_le (protocol : Protocol ι K V T D) (node : ι)
    (source : Option ι) (version : V) :
    (protocol.forward node source version).length ≤
      (protocol.links node (protocol.key version)).length := by
  unfold Protocol.forward
  rw [List.length_map]
  exact List.length_filter_le _ _

theorem load_taken_lt (node : ι) {source : Option ι} {version : V}
    {rest : List (Waiting ι V)} {place : Place ι K V}
    (queue : place.waiting = { source, version } :: rest)
    (accepts : place.Accepts protocol version) {versions : List V}
    (listed : version ∈ versions) :
    protocol.load versions node
        (protocol.taken node source version rest place) <
      protocol.load versions node place := by
  have cheaper := sum_cost_taken node source rest accepts listed
  have forwarded := length_forward_le protocol node source version
  have sent : (protocol.taken node source version rest place).sent.length =
      place.sent.length + (protocol.forward node source version).length :=
    List.length_append
  have waiting : place.waiting.length =
      (protocol.taken node source version rest place).waiting.length + 1 := by
    rw [queue]
    rfl
  unfold Protocol.load
  omega

omit [DecidableEq ι] [DecidableEq K] in
theorem load_enqueue (versions : List V) (node : ι) (source : Option ι)
    (version : V) (place : Place ι K V) :
    protocol.load versions node (place.enqueue source version) =
      protocol.load versions node place + 1 := by
  have longer : (place.enqueue source version).waiting.length =
      place.waiting.length + 1 := List.length_append
  change (versions.map (protocol.cost node place)).sum +
    2 * place.sent.length + (place.enqueue source version).waiting.length = _
  unfold Protocol.load
  omega

omit [DecidableEq ι] [DecidableEq K] in
theorem load_dequeue (versions : List V) (node : ι) {place : Place ι K V}
    {head : Waiting ι V} {rest : List (Waiting ι V)}
    (queue : place.waiting = head :: rest) :
    protocol.load versions node { place with waiting := rest } + 1 =
      protocol.load versions node place := by
  change (versions.map (protocol.cost node place)).sum +
    2 * place.sent.length + rest.length + 1 = _
  unfold Protocol.load
  rw [queue, List.length_cons]
  omega

omit [DecidableEq ι] [DecidableEq K] in
theorem load_dispatch (versions : List V) (node : ι) {place : Place ι K V}
    {message : Message ι V} {earlier later : List (Message ι V)}
    (sent : place.sent = earlier ++ message :: later) :
    protocol.load versions node { place with sent := earlier ++ later } + 2 =
      protocol.load versions node place := by
  change (versions.map (protocol.cost node place)).sum +
    2 * (earlier ++ later).length + place.waiting.length + 2 = _
  unfold Protocol.load
  rw [sent]
  simp only [List.length_append, List.length_cons]
  omega

omit [DecidableEq K] in
theorem burden_update {node : ι} (member : node ∈ protocol.members)
    (versions : List V) (state : State ι K V) (place : Place ι K V) :
    protocol.burden versions (Function.update state node place) +
        protocol.load versions node (state node) =
      protocol.burden versions state + protocol.load versions node place := by
  have others : ∑ other ∈ protocol.members.erase node,
        protocol.load versions other (Function.update state node place other) =
      ∑ other ∈ protocol.members.erase node,
        protocol.load versions other (state other) := by
    apply Finset.sum_congr rfl
    intro other among
    rw [Function.update_of_ne (Finset.ne_of_mem_erase among)]
  have before := Finset.add_sum_erase protocol.members
    (fun other => protocol.load versions other (state other)) member
  have after := Finset.add_sum_erase protocol.members
    (fun other => protocol.load versions other
      (Function.update state node place other)) member
  simp only [Function.update_self] at after
  unfold Protocol.burden
  omega

omit [DecidableEq K] in
theorem burden_update_lt {node : ι} (member : node ∈ protocol.members)
    {versions : List V} {state : State ι K V} {place : Place ι K V}
    (lighter : protocol.load versions node place <
      protocol.load versions node (state node)) :
    protocol.burden versions (Function.update state node place) <
      protocol.burden versions state := by
  have changed := burden_update member versions state place
  omega

/-- Every step in which nothing arrives twice makes the network lighter. -/
theorem Protocol.Step.burden_lt {versions : List V}
    (circulates : protocol.Circulates (· ∈ versions) state)
    (step : protocol.Step .progress state next) :
    protocol.burden versions next < protocol.burden versions state := by
  cases step with
  | take _ node source version rest member queue accepts =>
      apply burden_update_lt member
      apply load_taken_lt node queue accepts
      exact circulates.waiting node member { source, version }
        (by simp [queue])
  | skip _ node source version rest member queue _ =>
      apply burden_update_lt member
      exact Nat.lt_of_lt_of_eq (Nat.lt_succ_self _)
        (load_dequeue versions node queue)
  | leave _ node target version earlier later member _ sent =>
      apply burden_update_lt member
      exact Nat.lt_of_lt_of_eq (Nat.lt_add_of_pos_right Nat.two_pos)
        (load_dispatch versions node sent)
  | deliver _ node target version earlier later member listed apart sent =>
      let place : Place ι K V := { state node with sent := earlier ++ later }
      have left := burden_update member versions state place
      have shorter : protocol.load versions node place + 2 = _ :=
        load_dispatch versions node sent
      have arrived := burden_update listed versions
        (Function.update state node place)
        ((state target).enqueue (some node) version)
      rw [Function.update_of_ne apart, load_enqueue] at arrived
      change protocol.burden versions
        (Function.update (Function.update state node place) target _) < _
      omega

theorem Protocol.Circulates.length_le {versions : List V}
    (circulates : protocol.Circulates (· ∈ versions) first) {steps : ℕ}
    (trace : Trace protocol.Step (List.replicate steps .progress) first last) :
    steps + protocol.burden versions last ≤ protocol.burden versions first := by
  induction steps generalizing first with
  | zero =>
      cases trace with
      | nil => omega
  | succ steps induction =>
      cases trace with
      | cons step rest =>
          have lighter := step.burden_lt circulates
          have after := step.circulates circulates (by simp)
          have bound := induction after rest
          omega

/-- From every state there is a bound on the steps in which nothing arrives
twice and nothing is published. -/
theorem Protocol.exists_bound (protocol : Protocol ι K V T D)
    (first : State ι K V) :
    ∃ bound, ∀ steps last,
      Trace protocol.Step (List.replicate steps .progress) first last →
      steps ≤ bound := by
  let versions := protocol.members.toList.flatMap fun node =>
    (first node).waiting.map (·.version) ++ (first node).sent.map (·.version)
  have circulates : protocol.Circulates (· ∈ versions) first := by
    constructor
    · intro node member waiting waits
      refine List.mem_flatMap.mpr ⟨node, Finset.mem_toList.mpr member, ?_⟩
      exact List.mem_append_left _ (List.mem_map.mpr ⟨waiting, waits, rfl⟩)
    · intro node member message sent
      refine List.mem_flatMap.mpr ⟨node, Finset.mem_toList.mpr member, ?_⟩
      exact List.mem_append_right _ (List.mem_map.mpr ⟨message, sent, rfl⟩)
  refine ⟨protocol.burden versions first, ?_⟩
  intro steps last trace
  have bounded := circulates.length_le trace
  omega

end Rest

end Foundation.Gossip
