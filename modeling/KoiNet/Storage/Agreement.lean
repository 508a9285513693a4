import KoiNet.Components.Storage
import KoiNet.Foundation.Guarded
import KoiNet.Pipeline.CacheEffect

/-!
# Where failing files make a difference

Over files that can fail, processing decides on the cache action as it does
over files that keep everything, except in trouble: a file name that the file
system does not take, or two times that do not compare.  Then an exception
that nothing catches ends it.  What the cache action itself makes of a bundle
is `Storage.write`.
-/

namespace KoiNet

open Foundation KnowledgePipeline

/-- What `except RequestError` lets through. -/
def Exc.Uncaught (failure : Exc) : Prop :=
  failure.isRequestError = false

namespace Registration

variable (registration : Registration) (node : Node)

/-- The handlers registered in this order over ideal files. -/
def registry : Registry node :=
  { handlers := registration.order.map (DefaultHandler.handler node)
    registered := registration.complete.map (DefaultHandler.handler node) }

variable {registration node} {storage : Storage}

theorem stored_chain {handlerType : HandlerType}
    (notManifest : handlerType ≠ .manifest) (notBundle : handlerType ≠ .bundle)
    (kobj : KnowledgeObject) :
    callHandlerChain handlerType (registration.stored storage node) kobj =
      callHandlerChain handlerType (registration.registry node).handlers
        kobj := by
  unfold stored registry
  dsimp only
  generalize registration.order = order
  induction order generalizing kobj with
  | nil => rfl
  | cons name rest induction =>
      have same : callHandlerChain handlerType
            (rest.map (DefaultHandler.stored storage node)) =
          callHandlerChain handlerType
            (rest.map (DefaultHandler.handler node)) := funext induction
      rw [List.map_cons, List.map_cons]
      cases name with
      | basicManifestHandler =>
          rw [callHandlerChain_other (Ne.symm notManifest),
            callHandlerChain_other (Ne.symm notManifest)]
          exact induction kobj
      | edgeNegotiationHandler =>
          rw [callHandlerChain_other (Ne.symm notBundle),
            callHandlerChain_other (Ne.symm notBundle)]
          exact induction kobj
      | _ =>
          unfold callHandlerChain
          rw [same]
          rfl

end Registration

namespace Storage

variable {storage : Storage} {node : Node} {state : NodeState}
  {kobj : KnowledgeObject}

theorem openFile_run (rid : RID) (state : NodeState) :
    (storage.openFile rid).run state =
      if storage.opens rid then (.ok (), state) else (.error .osError, state) := by
  unfold openFile
  split <;> rfl

theorem read_run (rid : RID) (state : NodeState) :
    (storage.read rid).run state =
      if storage.opens rid then (.ok (state.cache.read rid), state)
      else (.error .osError, state) := by
  unfold read
  rw [Effect.run_bind, openFile_run]
  cases storage.opens rid <;> rfl

/-- The two times are told apart by an offset. -/
def Incomparable (storage : Storage) (manifest previous : Manifest) : Prop :=
  manifest.sha256Hash ≠ previous.sha256Hash ∧
    storage.naive manifest.timestamp ≠ storage.naive previous.timestamp

/-- Deciding on the cache action runs into a file that does not open, or into
times that do not compare. -/
inductive Trouble (storage : Storage) (node : Node) (state : NodeState)
    (kobj : KnowledgeObject) : Prop where
  | forgotten :
      kobj.eventType = some .forget → storage.opens kobj.rid = false →
      Trouble storage node state kobj
  | announced (manifest : Manifest) (between : NodeState) :
      kobj.eventType ≠ some .forget →
      Announced node kobj state manifest between →
      storage.opens kobj.rid = false →
      Trouble storage node state kobj
  | incomparable (manifest : Manifest) (between : NodeState)
      (previous : Bundle) :
      kobj.eventType ≠ some .forget →
      Announced node kobj state manifest between →
      state.cache.read kobj.rid = some previous →
      storage.Incomparable manifest previous.manifest →
      Trouble storage node state kobj
  | source (peer : KoiNetNode) :
      kobj.eventType ≠ some .forget → kobj.source = some peer →
      kobj.manifest = none ∨ kobj.lacksContents = true →
      storage.opens (.node peer) = false →
      Trouble storage node state kobj
  | negotiated (manifest : Manifest) (bundle : Bundle)
      (edgeProfile : EdgeProfile) :
      Judged node state kobj manifest bundle →
      kobj.rid.type = .koiNetEdge → kobj.isTyped →
      EdgeProfile.modelValidate bundle.contents = some edgeProfile →
      edgeProfile.source = node.rid → edgeProfile.status = .proposed →
      storage.opens (.node edgeProfile.target) = false →
      Trouble storage node state kobj

theorem not_trouble (opens : ∀ rid, storage.opens rid = true)
    (compares : ∀ first second, storage.naive first = storage.naive second) :
    ¬storage.Trouble node state kobj := by
  have notUnopened : ∀ rid, storage.opens rid ≠ false := by simp [opens]
  intro trouble
  cases trouble with
  | forgotten _ unopened => exact notUnopened _ unopened
  | announced _ _ _ _ unopened => exact notUnopened _ unopened
  | incomparable _ _ _ _ _ _ apart => exact apart.2 (compares _ _)
  | source _ _ _ _ unopened => exact notUnopened _ unopened
  | negotiated _ _ _ _ _ _ _ _ _ unopened => exact notUnopened _ unopened

section Obtaining

variable {trouble : Prop}

theorem makeRequest_agrees {peer : KoiNetNode} {path : Path}
    {request : path.Request}
    (fails : storage.opens (.node peer) = false → trouble)
    (state : NodeState) :
    AgreesAt Exc.Uncaught trouble
      (storage.makeRequest node peer path request)
      (RequestHandler.makeRequest node peer path request) state := by
  by_cases self : peer = node.rid
  · apply AgreesAt.same
    unfold makeRequest RequestHandler.makeRequest
    rw [if_pos self, if_pos self]
  · unfold makeRequest
    rw [if_neg self]
    have uncaught : Exc.Uncaught .osError := rfl
    exact AgreesAt.check uncaught fails _ state

theorem guardedRequest_agrees {peer : KoiNetNode} {path : Path}
    {request : path.Request}
    (fails : storage.opens (.node peer) = false → trouble)
    (state : NodeState) :
    AgreesAt Exc.Uncaught trouble
      (Effect.tryExcept
        (storage.makeRequest node peer path request >>= fun payload =>
          pure (some payload))
        Exc.isRequestError (pure none))
      (guardedRequest node peer path request) state := by
  apply AgreesAt.tryExcept fun failure uncaught => uncaught
  exact (makeRequest_agrees fails state).bind fun _ _ _ => .refl _ _

theorem obtainManifest_agrees
    (fails : ∀ peer, kobj.source = some peer → kobj.manifest = none →
      storage.opens (.node peer) = false → trouble) (state : NodeState) :
    AgreesAt Exc.Uncaught trouble (storage.obtainManifest node kobj)
      (KnowledgePipeline.obtainManifest node kobj) state := by
  unfold obtainManifest KnowledgePipeline.obtainManifest
  cases absent : kobj.manifest with
  | some manifest => exact .refl _ _
  | none =>
      cases sender : kobj.source with
      | none => exact .refl _ _
      | some peer =>
          exact (guardedRequest_agrees (fails peer sender absent) state).bind
            fun _ _ _ => .refl _ _

theorem obtainContents_agrees
    (fails : ∀ peer, kobj.source = some peer → kobj.lacksContents = true →
      storage.opens (.node peer) = false → trouble) (state : NodeState) :
    AgreesAt Exc.Uncaught trouble (storage.obtainContents node kobj)
      (KnowledgePipeline.obtainContents node kobj) state := by
  unfold obtainContents KnowledgePipeline.obtainContents
  cases lacks : kobj.lacksContents with
  | false => exact .refl _ _
  | true =>
      cases sender : kobj.source with
      | none => exact .refl _ _
      | some peer =>
          exact (guardedRequest_agrees (fails peer sender lacks) state).bind
            fun _ _ _ => .refl _ _

theorem attachLocal_agrees
    (fails : storage.opens kobj.rid = false → trouble) (state : NodeState) :
    AgreesAt Exc.Uncaught trouble (storage.attachLocal kobj)
      (KnowledgePipeline.attachLocal kobj) state := by
  unfold attachLocal KnowledgePipeline.attachLocal
  cases opened : storage.opens kobj.rid with
  | false =>
      refine .raised .osError state (fails opened) rfl ?_
      rw [Effect.run_bind, read_run, opened]
      rfl
  | true =>
      apply AgreesAt.same
      rw [Effect.run_bind, read_run, opened]
      rfl

end Obtaining

/-- The manifest test over files. -/
theorem basicManifestHandler_agrees {trouble : Prop} {manifest : Manifest}
    (hasManifest : kobj.manifest = some manifest)
    (unopened : storage.opens kobj.rid = false → trouble)
    (unordered : ∀ previous, state.cache.read kobj.rid = some previous →
      storage.Incomparable manifest previous.manifest → trouble) :
    AgreesAt Exc.Uncaught trouble (BasicManifestHandler.handle storage kobj)
      (KoiNet.BasicManifestHandler.handle kobj) state := by
  unfold BasicManifestHandler.handle KoiNet.BasicManifestHandler.handle
  cases opened : storage.opens kobj.rid with
  | false =>
      refine .raised .osError state (unopened opened) rfl ?_
      rw [Effect.run_bind, read_run, opened]
      rfl
  | true =>
      rw [hasManifest]
      have found : (storage.read kobj.rid).run state =
          (.ok (state.cache.read kobj.rid), state) := by
        rw [read_run, opened]
        rfl
      cases cached : state.cache.read kobj.rid with
      | none =>
          apply AgreesAt.same
          rw [Effect.run_bind_of_ok found, Effect.run_get_bind, cached]
      | some previous =>
          by_cases sameHash : manifest.sha256Hash =
              previous.manifest.sha256Hash
          · apply AgreesAt.same
            rw [Effect.run_bind_of_ok found, Effect.run_get_bind, cached]
            simp [BasicManifestHandler.isNewer, sameHash]
          · by_cases ordered : storage.naive manifest.timestamp =
                storage.naive previous.manifest.timestamp
            · apply AgreesAt.same
              rw [Effect.run_bind_of_ok found, Effect.run_get_bind, cached]
              simp only [if_neg sameHash, notAfter, ordered, ne_eq,
                not_true_eq_false, if_false, Effect.run_pure_bind]
              by_cases later : previous.manifest.timestamp <
                  manifest.timestamp
              · simp [BasicManifestHandler.isNewer, sameHash, later,
                  Int.not_le.mpr later]
              · simp [BasicManifestHandler.isNewer, later,
                  Int.not_lt.mp later]
            · refine .raised .typeError state
                (unordered previous cached ⟨sameHash, ordered⟩) rfl ?_
              rw [Effect.run_bind_of_ok found, cached]
              simp [sameHash, notAfter, ordered, Effect.run_bind]

theorem edgeNegotiationHandler_agrees {trouble : Prop} {bundle : Bundle}
    (bundled : kobj.bundle = .ok bundle)
    (unopened : ∀ edgeProfile,
      EdgeProfile.modelValidate bundle.contents = some edgeProfile →
      edgeProfile.source = node.rid → edgeProfile.status = .proposed →
      storage.opens (.node edgeProfile.target) = false → trouble) :
    AgreesAt Exc.Uncaught trouble
      (EdgeNegotiationHandler.handle storage node kobj)
      (KoiNet.EdgeNegotiationHandler.handle node kobj) state := by
  unfold EdgeNegotiationHandler.handle KoiNet.EdgeNegotiationHandler.handle
  split
  · exact .refl _ _
  · rw [bundled]
    refine .bind_right _ fun found between given => ?_
    cases given
    refine .bind_right _ fun edgeProfile between given => ?_
    rw [validateContents_run] at given
    cases valid : EdgeProfile.modelValidate bundle.contents with
    | none =>
        rw [valid] at given
        cases given
    | some profile =>
        rw [valid] at given
        cases given
        by_cases outgoing : edgeProfile.source = node.rid
        · rw [if_pos outgoing, if_pos outgoing]
          by_cases proposed : edgeProfile.status ≠ .proposed
          · rw [if_pos proposed, if_pos proposed]
            exact .refl _ _
          · rw [if_neg proposed, if_neg proposed]
            dsimp only
            cases opened : storage.opens (.node edgeProfile.target) with
            | false =>
                refine .raised .osError state
                  (unopened edgeProfile valid outgoing (not_not.mp proposed)
                    opened) rfl ?_
                rw [Effect.run_bind, read_run, opened]
                rfl
            | true =>
                apply AgreesAt.same
                rw [Effect.run_bind, read_run, opened]
                rfl
        · rw [if_neg outgoing, if_neg outgoing]
          exact .refl _ _

theorem callHandlerChain_agrees {trouble : Prop} {handlerType : HandlerType}
    (given : KnowledgeObject → NodeState → Prop)
    {order : List DefaultHandler}
    (agrees : ∀ name ∈ order, (name.handler node).handlerType = handlerType →
      ∀ kobj state, given kobj state →
        (name.handler node).accepts kobj = true →
        AgreesAt Exc.Uncaught trouble ((name.stored storage node).handle kobj)
          ((name.handler node).handle kobj) state)
    (kept : ∀ name ∈ order, (name.handler node).handlerType = handlerType →
      ∀ kobj state response after next, given kobj state →
        (name.handler node).accepts kobj = true →
        ((name.handler node).handle kobj).run state = (.ok response, after) →
        response.next kobj = some next → given next after)
    (kobj : KnowledgeObject) (state : NodeState) (isGiven : given kobj state) :
    AgreesAt Exc.Uncaught trouble
      (callHandlerChain handlerType
        (order.map (DefaultHandler.stored storage node)) kobj)
      (callHandlerChain handlerType
        (order.map (DefaultHandler.handler node)) kobj) state := by
  induction order generalizing kobj state with
  | nil => exact .refl _ _
  | cons name rest induction =>
      have restAgrees := induction
        (fun other member => agrees other (by simp [member]))
        (fun other member => kept other (by simp [member]))
      have sameType : (name.stored storage node).handlerType =
          (name.handler node).handlerType := by cases name <;> rfl
      have sameAccepts : (name.stored storage node).accepts kobj =
          (name.handler node).accepts kobj := by cases name <;> rfl
      rw [List.map_cons, List.map_cons]
      by_cases called : (name.handler node).handlerType = handlerType
      · by_cases accepted : (name.handler node).accepts kobj = true
        · rw [callHandlerChain_call called accepted,
            callHandlerChain_call (sameType.trans called)
              (sameAccepts.trans accepted)]
          have first := agrees name (by simp) called kobj state isGiven accepted
          refine first.bind fun response after handled => ?_
          have goesOn := kept name (by simp) called kobj state response after
          cases response with
          | stopChain => exact .refl _ _
          | unmodified =>
              exact restAgrees kobj after (goesOn _ isGiven accepted handled rfl)
          | modified changed =>
              exact restAgrees changed after
                (goesOn _ isGiven accepted handled rfl)
        · have rejected : (name.handler node).accepts kobj = false := by
            simpa using accepted
          rw [callHandlerChain_skip rejected,
            callHandlerChain_skip (sameAccepts.trans rejected)]
          exact restAgrees kobj state isGiven
      · rw [callHandlerChain_other called,
          callHandlerChain_other (fun same => called (sameType.symm.trans same))]
        exact restAgrees kobj state isGiven

theorem Registry.manifestResult_fields {cache : Cache}
    {manifest : Manifest} {kobj judged : KnowledgeObject}
    (judges : Registry.manifestResult cache
      { kobj with manifest := some manifest } manifest = some judged) :
    judged.source = kobj.source ∧ judged.contents = kobj.contents := by
  unfold Registry.manifestResult at judges
  split at judges
  · cases judges
    exact ⟨rfl, rfl⟩
  · split at judges
    · cases judges
      exact ⟨rfl, rfl⟩
    · cases judges

/-- What is obtained for the Bundle chain has been judged. -/
theorem obtainBundle_judged (registry : Registry node)
    {complete : KnowledgeObject} {after : NodeState}
    (passes : PassesRid node kobj)
    (notForget : kobj.eventType ≠ some .forget)
    (ran : (KnowledgePipeline.obtainBundle node registry.handlers kobj).run
      state = (.ok (some complete), after)) :
    ∃ manifest bundle, Judged node state kobj manifest bundle ∧
      complete = kobj.settled (state.cache.writeType kobj.rid) bundle := by
  have step := obtainManifest_step node kobj state
  generalize obtained : (KnowledgePipeline.obtainManifest node kobj).run
    state = ended at step
  obtain ⟨result, between⟩ := ended
  rcases result with failure | _ | found
  · rw [obtainBundle_of_manifest registry notForget (.inr ⟨failure, rfl⟩)
      obtained] at ran
    cases ran
  · rw [obtainBundle_of_manifest registry notForget (.inl rfl) obtained] at ran
    cases ran
  · cases step with
    | found manifest _ announced =>
        rw [obtainBundle_of_announced registry notForget announced] at ran
        by_cases fresh : Fresh state.cache kobj.rid manifest
        · rw [manifestResult_fresh fresh] at ran
          have contents : ContentsStep node (tested state.cache kobj manifest)
              manifest between _ _ := obtainContents_step rfl between
          dsimp only at ran
          rw [ran] at contents
          cases contents with
          | found bundle _ carried =>
              exact ⟨manifest, bundle,
                { passes := passes
                  notForget := notForget
                  offered := ⟨between, after, announced,
                    carried_of_tested.mp carried⟩
                  fresh := fresh }, rfl⟩
        · rw [manifestResult_stale fresh] at ran
          cases ran

section Chains

variable (registration : Registration)

theorem stored_manifestChain (kobj : KnowledgeObject) :
    callHandlerChain .manifest (registration.stored storage node) kobj =
      callHandlerChain .manifest [storage.basicManifestHandler] kobj := by
  have only : registration.order.filter
        (fun name => (name.handler node).handlerType = .manifest) =
      [.basicManifestHandler] :=
    List.perm_singleton.mp (registration.complete.filter _)
  change _ = callHandlerChain .manifest
    ([DefaultHandler.basicManifestHandler].map
      (DefaultHandler.stored storage node)) kobj
  rw [callHandlerChain_filter, ← only]
  unfold Registration.stored
  rw [List.filter_map]
  congr 2
  apply List.filter_congr
  intro name _
  cases name <;> rfl

theorem manifestChain_agrees {trouble : Prop} {manifest : Manifest}
    (hasManifest : kobj.manifest = some manifest)
    (unopened : storage.opens kobj.rid = false → trouble)
    (unordered : ∀ previous, state.cache.read kobj.rid = some previous →
      storage.Incomparable manifest previous.manifest → trouble) :
    AgreesAt Exc.Uncaught trouble
      (callHandlerChain .manifest (registration.stored storage node) kobj)
      (callHandlerChain .manifest (registration.registry node).handlers kobj)
      state := by
  rw [stored_manifestChain, Registry.callHandlerChain_ofType,
    Registry.ofType_manifest]
  refine (basicManifestHandler_agrees hasManifest unopened unordered).bind
    fun response after _ => ?_
  cases response <;> exact .refl _ _

theorem bundleChain_agrees {trouble : Prop} {bundle : Bundle}
    (bundled : kobj.bundle = .ok bundle)
    (unopened : kobj.rid.type = .koiNetEdge → kobj.isTyped →
      ∀ edgeProfile,
        EdgeProfile.modelValidate bundle.contents = some edgeProfile →
        edgeProfile.source = node.rid → edgeProfile.status = .proposed →
        storage.opens (.node edgeProfile.target) = false → trouble) :
    AgreesAt Exc.Uncaught trouble
      (callHandlerChain .bundle (registration.stored storage node) kobj)
      (callHandlerChain .bundle (registration.registry node).handlers kobj)
      state := by
  refine callHandlerChain_agrees (fun other _ => other = kobj) ?_ ?_ kobj state
    rfl
  · rintro name _ called other state rfl accepted
    cases name with
    | edgeNegotiationHandler =>
        obtain ⟨isEdge, typed⟩ :=
          edgeNegotiationHandler_accepts_iff.mp accepted
        exact edgeNegotiationHandler_agrees bundled (unopened isEdge typed)
    | basicManifestHandler => cases called
    | _ => exact .refl _ _
  · rintro name _ called other state response after next rfl accepted handled
      goesOn
    obtain ⟨hasManifest, hasContents⟩ := KnowledgeObject.fields_of_bundle bundled
    have unmodified : ∀ changed, response ≠ .modified changed := by
      rintro changed rfl
      cases name with
      | edgeNegotiationHandler =>
          have step := EdgeNegotiationHandler.handle_step node hasManifest
            hasContents state
          exact step.ne_modified (congrArg Prod.fst handled)
      | secureProfileHandler =>
          have isNode := (secureProfileHandler_accepts_iff.mp accepted).1
          cases named : other.rid with
          | node nodeRid =>
              have verdict := SecureProfileHandler.handle_run node named
                hasManifest hasContents state
              exact SecureProfileHandler.verdict_ne_modified
                (congrArg Prod.fst (verdict.symm.trans handled))
          | edge _ => simp [named, RID.type] at isNode
          | other _ _ => simp [named, RID.type] at isNode
      | _ => cases called
    cases response with
    | stopChain => cases goesOn
    | unmodified =>
        cases goesOn
        rfl
    | modified changed => exact (unmodified changed rfl).elim

private theorem settle_agrees_forget
    (forget : kobj.eventType = some .forget) :
    let chosen := { kobj with normalizedEventType := some .forget }
    AgreesAt Exc.Uncaught (Trouble storage node state kobj)
      (storage.obtainBundle node (registration.stored storage node) chosen >>=
        fun
        | none => pure none
        | some complete => callHandlerChain .bundle
            (registration.stored storage node) complete)
      (KnowledgePipeline.obtainBundle node
          (registration.registry node).handlers chosen >>= fun
        | none => pure none
        | some complete => callHandlerChain .bundle
            (registration.registry node).handlers complete)
      state := by
  intro chosen
  unfold obtainBundle KnowledgePipeline.obtainBundle
  rw [if_pos (show chosen.eventType = some .forget from forget),
    if_pos (show chosen.eventType = some .forget from forget)]
  refine (attachLocal_agrees
    (fun unopened => .forgotten forget unopened) state).bind
      fun attached after ran => ?_
  unfold KnowledgePipeline.attachLocal at ran
  rw [Effect.run_get_bind] at ran
  cases cached : state.cache.read chosen.rid with
  | none =>
      rw [cached] at ran
      cases ran
      exact .refl _ _
  | some bundle =>
      rw [cached] at ran
      cases ran
      refine bundleChain_agrees registration
        (KnowledgeObject.bundle_of_fields rfl rfl) ?_
      intro _ typed
      unfold KnowledgeObject.isTyped at typed
      dsimp only [chosen] at typed
      rw [forget] at typed
      simp at typed

private theorem settle_agrees_write (passes : PassesRid node kobj)
    (notForget : kobj.eventType ≠ some .forget) :
    AgreesAt Exc.Uncaught (Trouble storage node state kobj)
      (storage.obtainBundle node (registration.stored storage node) kobj >>=
        fun
        | none => pure none
        | some complete => callHandlerChain .bundle
            (registration.stored storage node) complete)
      (KnowledgePipeline.obtainBundle node
          (registration.registry node).handlers kobj >>= fun
        | none => pure none
        | some complete => callHandlerChain .bundle
            (registration.registry node).handlers complete)
      state := by
  let registry := registration.registry node
  have obtains : AgreesAt Exc.Uncaught (Trouble storage node state kobj)
      (storage.obtainBundle node (registration.stored storage node) kobj)
      (KnowledgePipeline.obtainBundle node registry.handlers kobj) state := by
    unfold obtainBundle KnowledgePipeline.obtainBundle
    rw [if_neg notForget, if_neg notForget]
    refine (obtainManifest_agrees (fun peer sender absent unopened =>
      .source peer notForget sender (.inl absent) unopened) state).bind
        fun found between ran => ?_
    have step := obtainManifest_step node kobj state
    rw [ran] at step
    cases step with
    | noSource => exact .refl _ _
    | unanswered => exact .refl _ _
    | found manifest _ announced =>
        have kept := announced.cache
        dsimp only
        refine (manifestChain_agrees registration rfl
          (fun unopened => .announced manifest between notForget announced
            unopened)
          fun previous cached incomparable => ?_).bind
            fun judged after chained => ?_
        · rw [kept] at cached
          exact .incomparable manifest between previous notForget announced
            cached incomparable
        · rw [registry.manifestChain_run rfl between] at chained
          cases judged with
          | none => exact .refl _ _
          | some judged =>
              obtain ⟨source, contents⟩ : judged.source = kobj.source ∧
                  judged.contents = kobj.contents := by
                have judges := Except.ok.inj (congrArg Prod.fst chained)
                exact Registry.manifestResult_fields judges
              refine obtainContents_agrees (fun peer sender lacks unopened =>
                .source peer notForget (source.symm.trans sender) (.inr ?_)
                  unopened) after
              unfold KnowledgeObject.lacksContents at lacks ⊢
              rw [← contents]
              exact lacks
  refine obtains.bind fun complete after ran => ?_
  cases complete with
  | none => exact .refl _ _
  | some complete =>
      obtain ⟨manifest, bundle, judged, rfl⟩ :=
        obtainBundle_judged registry passes notForget ran
      refine bundleChain_agrees registration
        (KnowledgeObject.bundle_of_fields rfl rfl) ?_
      intro isEdge typed edgeProfile valid outgoing proposed unopened
      exact .negotiated manifest bundle edgeProfile judged isEdge typed valid
        outgoing proposed unopened

/-- Deciding on the cache action over files agrees with deciding over files
that keep everything, but for trouble. -/
theorem settle_agrees (kobj : KnowledgeObject) (state : NodeState) :
    AgreesAt Exc.Uncaught (Trouble storage node state kobj)
      (storage.settle node (registration.stored storage node) kobj)
      (KnowledgePipeline.settle node (registration.registry node).handlers kobj)
      state := by
  let registry := registration.registry node
  unfold settle KnowledgePipeline.settle
  rw [Registration.stored_chain (by decide) (by decide)]
  refine .bind_right _ fun passed after ran => ?_
  cases (registry.ridChain_run kobj state).symm.trans ran
  by_cases passes : PassesRid node kobj
  · by_cases forget : kobj.eventType = some .forget
    · have found : Registry.ridResult node kobj =
          some { kobj with normalizedEventType := some .forget } := by
        unfold Registry.ridResult
        rw [if_neg passes, if_pos forget]
      rw [found]
      exact settle_agrees_forget registration forget
    · have found : Registry.ridResult node kobj = some kobj := by
        unfold Registry.ridResult
        rw [if_neg passes, if_neg forget]
      rw [found]
      exact settle_agrees_write registration passes forget
  · have blocked : Registry.ridResult node kobj = none := by
      unfold Registry.ridResult
      rw [if_pos (not_not.mp passes)]
    rw [blocked]
    exact .refl _ _

end Chains

end Storage

end KoiNet
