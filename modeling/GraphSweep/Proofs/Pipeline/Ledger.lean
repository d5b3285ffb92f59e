import GraphSweep.Proofs.Join.Ledger
import GraphSweep.Proofs.Pipeline.Success

/-!
# What a job under way does with the items of a stream

The join takes the items of a data stream into a slot, one after another, and looks at
the slot for one vertex after another. Whatever the parts of a job do meanwhile, what
has become of the items by some time and what is to become of them from then on make up
one ledger, that of the lane that the stream is. And every item that moves into the slot
gets into the ledger once, unless it is in the slot still.
-/

namespace GraphSweep

namespace Channel

section Glance

variable
  {policy : FailurePolicy}
  {channel next : Channel}
  (probed : Probed)
  {later : List Probed}

/-- What the join drops at a glance is the first that becomes of the items. -/
theorem ledger_of_moved
    {dropped : Nat}
    (sound : channel.Sound policy)
    (moved : channel.glance policy probed.id = .moved next dropped) :
    Lane.fates probed channel.slot.toList ++
        next.lane.ledger policy (probed :: later) =
      channel.lane.ledger policy (probed :: later) := by
  have seek := (seek_of_moved sound moved).2
  have fates : Lane.fates probed channel.slot.toList ++
      Lane.fates probed next.lane.pending =
        Lane.fates probed channel.lane.pending := by
    have glances := channel.glances policy probed.id
    rw [moved] at glances
    cases glances with
    | drops item holds earlier =>
        simp [Lane.pending, lane, holds, Lane.fates, earlier]
    | takes item rest empty going queue =>
        simp [Lane.pending, lane, empty, Reader.outstanding, queue, Reader.ahead,
          Lane.fates]
    | finishes empty =>
        simp [Lane.pending, lane, empty, Lane.fates]
  rw [Lane.ledger, Lane.ledger, seek, ← fates, List.append_assoc]
  cases next.lane.seek policy probed.id <;> rfl

/-- What the join claims at a glance is all that becomes of the items at the
vertex. -/
theorem ledger_of_passed
    {entries : Option (List Entry)}
    (sound : channel.Sound policy)
    (passed : channel.glance policy probed.id = .passed next entries) :
    Lane.fates probed channel.slot.toList ++ next.lane.ledger policy later =
      channel.lane.ledger policy (probed :: later) := by
  have fates : Lane.fates probed channel.lane.pending =
      Lane.fates probed channel.slot.toList := by
    have glances := channel.glances policy probed.id
    rw [passed] at glances
    cases glances with
    | claims item holds same =>
        simp [Lane.pending, lane, holds, Lane.fates, same]
    | keeps item holds reached other =>
        simp [Lane.pending, lane, holds, Lane.fates, reached, other]
    | lacks empty finished =>
        obtain ⟨gone, drained, -⟩ := sound.finished finished
        simp [Lane.pending, lane, empty, Reader.outstanding_of_gone gone drained]
  rw [Lane.ledger_cons (seek_of_passed sound passed).2.2, fates]

/-- The item that moves into a slot, by what the slot has held before. -/
def received (before after : Option Item) : List Item :=
  if after = before then [] else after.toList

@[simp] theorem received_self (slot : Option Item) : received slot slot = [] :=
  if_pos rfl

/-- What is dropped at a glance is what leaves the slot. -/
theorem slot_of_moved
    {dropped : Nat}
    (moved : channel.glance policy probed.id = .moved next dropped) :
    channel.slot.toList ++ received channel.slot next.slot =
      (Lane.fates probed channel.slot.toList).map Settled.item ++
        next.slot.toList := by
  have glances := channel.glances policy probed.id
  rw [moved] at glances
  cases glances with
  | drops item holds earlier =>
      simp [holds, Lane.fates, earlier, received, Settled.orphan]
  | takes item rest empty => simp [empty, Lane.fates, received]
  | finishes empty => simp [empty, Lane.fates]

/-- What is claimed at a glance is what leaves the slot. -/
theorem slot_of_passed
    {entries : Option (List Entry)}
    (passed : channel.glance policy probed.id = .passed next entries) :
    channel.slot.toList ++ received channel.slot next.slot =
      (Lane.fates probed channel.slot.toList).map Settled.item ++
        next.slot.toList := by
  have glances := channel.glances policy probed.id
  rw [passed] at glances
  cases glances with
  | claims item holds same => simp [holds, Lane.fates, same, received]
  | keeps item holds reached other =>
      simp [holds, Lane.fates, reached, other]
  | lacks empty => simp [empty, Lane.fates]

end Glance
end Channel

namespace JoinPhase

/-- Whether the job has ended. -/
def isOver : JoinPhase -> Bool
  | ended _ => true
  | probing | seeking _ _ _ _ | submitting _ | inlining | draining | stopping
  | failing _ | abandoning _ => false

end JoinPhase

namespace Pipeline

variable {σ ρ : Type}

/-- The item in the slot of the channel at a position. -/
def slotAt (pipeline : Pipeline σ ρ) (position : Nat) : Option Item :=
  pipeline.channels[position]?.bind Channel.slot

/-- What an action makes of the item in the slot of the channel at a position: the join
looks at it for a vertex, and in the end no vertex claims what is left. -/
def settles
    (pipeline : Pipeline σ ρ)
    (position : Nat) : Action -> List Settled
  | .join =>
      match pipeline.phase with
      | .seeking id live _ current =>
          if current = position then
            Lane.fates ⟨id, live⟩ (pipeline.slotAt position).toList
          else []
      | .probing | .submitting _ | .inlining | .draining | .stopping | .failing _
      | .abandoning _ | .ended _ => []
  | .release _ => (pipeline.slotAt position).toList.map .orphan
  | .read _ | .pick | .work _ | .breakOff _ | .expire => []

/-- The items that move into the slot of the channel at a position, in order. -/
def receivedBy
    [Mergeable σ]
    (setup : Setup σ ρ)
    (position : Nat)
    (pipeline : Pipeline σ ρ) : List Action -> List Item
  | [] => []
  | action :: actions =>
      match pipeline.act setup action with
      | none => []
      | some next =>
          Channel.received (pipeline.slotAt position) (next.slotAt position) ++
            next.receivedBy setup position actions

/-- What becomes of the items of the channel at a position, in order. -/
def settledBy
    [Mergeable σ]
    (setup : Setup σ ρ)
    (position : Nat)
    (pipeline : Pipeline σ ρ) : List Action -> List Settled
  | [] => []
  | action :: actions =>
      pipeline.settles position action ++
        match pipeline.act setup action with
        | none => []
        | some next => next.settledBy setup position actions

/-- The vertices for which the join is still to look at the channel at a position. -/
def visitsAhead (pipeline : Pipeline σ ρ) (position : Nat) : List Probed :=
  let later := (Item.handledAfter pipeline.account.last
    pipeline.primary.outstanding.items).map Item.probed
  match pipeline.phase with
  | .probing | .submitting _ | .inlining => later
  | .seeking id live _ current =>
      if position < current then later else ⟨id, live⟩ :: later
  | .draining | .stopping | .failing _ | .abandoning _ | .ended _ => []

/-- What is to become of the items of the channel at a position, until the job has
ended. -/
def outlook
    (policy : FailurePolicy)
    (position : Nat)
    (pipeline : Pipeline σ ρ) : List Settled :=
  match pipeline.lanes[position]? with
  | none => []
  | some lane =>
      if pipeline.phase.isOver then []
      else lane.ledger policy (pipeline.visitsAhead position)

/-- The item in the slot of the channel at a position of which nothing has become
yet. -/
def unsettled (pipeline : Pipeline σ ρ) (position : Nat) : List Item :=
  if pipeline.phase.isOver then [] else (pipeline.slotAt position).toList

section Slots

variable
  {policy : FailurePolicy}
  {pipeline next : Pipeline σ ρ}
  {position : Nat}

theorem slotAt_of_getElem?
    {channel : Channel}
    (found : pipeline.channels[position]? = some channel) :
    pipeline.slotAt position = channel.slot := by
  rw [slotAt, found]
  rfl

theorem slotAt_of_same
    (same : next.channels[position]? = pipeline.channels[position]?) :
    next.slotAt position = pipeline.slotAt position := by
  rw [slotAt, slotAt, same]

theorem slotAt_congr
    (slots : next.channels.map Channel.slot =
      pipeline.channels.map Channel.slot) :
    next.slotAt position = pipeline.slotAt position := by
  have looked (state : Pipeline σ ρ) : state.slotAt position =
      ((state.channels.map Channel.slot)[position]?).join := by
    rw [slotAt, List.getElem?_map]
    cases state.channels[position]? <;> rfl
  rw [looked, looked, slots]

/-- The join looks at no other slot than that of the channel that it seeks at. -/
theorem settles_join_of_other
    (elsewhere : ∀ id live fetched,
      pipeline.phase ≠ .seeking id live fetched position) :
    pipeline.settles position .join = [] := by
  unfold settles
  cases phase : pipeline.phase with
  | seeking id live fetched current =>
      apply if_neg
      rintro rfl
      exact elsewhere id live fetched phase
  | probing | submitting | inlining | draining | stopping | failing | abandoning
  | ended => rfl

theorem settles_join_of_seeking
    {id : VertexId}
    {live : Bool}
    {fetched : List (Slice × List Entry)}
    (phase : pipeline.phase = .seeking id live fetched position) :
    pipeline.settles position .join =
      Lane.fates ⟨id, live⟩ (pipeline.slotAt position).toList := by
  unfold settles
  rw [phase]
  exact if_pos rfl

/-- When no more items are received, nothing is to become of any but those left in the
slots. -/
theorem outlook_of_received (received : pipeline.phase.receives = false) :
    pipeline.outlook policy position =
      (pipeline.unsettled position).map .orphan := by
  have spent : pipeline.visitsAhead position = [] := by
    unfold visitsAhead
    cases phase : pipeline.phase with
    | draining | stopping | failing | abandoning | ended => rfl
    | probing | seeking | submitting | inlining =>
        rw [phase] at received
        cases received
  rw [outlook, spent, unsettled, slotAt, lanes, List.getElem?_map]
  cases pipeline.channels[position]? with
  | none => cases pipeline.phase.isOver <;> rfl
  | some channel => cases pipeline.phase.isOver <;> rfl

/-- Nothing is to become of any item when the job has ended. -/
theorem outlook_of_over (ended : pipeline.phase.isOver = true) :
    pipeline.outlook policy position = [] ∧
      pipeline.unsettled position = [] := by
  rw [outlook, unsettled, ended]
  refine ⟨?_, rfl⟩
  cases pipeline.lanes[position]? <;> rfl

/-- What the outlook rests on. -/
theorem outlook_congr
    (phase : next.phase = pipeline.phase)
    (last : next.account.last = pipeline.account.last)
    (slots : next.channels.map Channel.slot = pipeline.channels.map Channel.slot)
    (received : pipeline.phase.receives ->
      next.lanes = pipeline.lanes ∧
        next.primary.outstanding = pipeline.primary.outstanding) :
    next.outlook policy position = pipeline.outlook policy position := by
  cases receives : pipeline.phase.receives with
  | false =>
      have spent : next.phase.receives = false := phase ▸ receives
      rw [outlook_of_received receives, outlook_of_received spent, unsettled,
        unsettled, phase, slotAt_congr slots]
  | true =>
      obtain ⟨lanes, outstanding⟩ := received receives
      rw [outlook, outlook, visitsAhead, visitsAhead, lanes, phase, last,
        outstanding]

/-- After the last channel the join has no slot to look at. -/
theorem settles_join_of_spent
    {id : VertexId}
    {live : Bool}
    {fetched : List (Slice × List Entry)}
    {current : Nat}
    (phase : pipeline.phase = .seeking id live fetched current)
    (spent : pipeline.channels[current]? = none) :
    pipeline.settles position .join = [] := by
  by_cases here : current = position
  · subst here
    rw [settles_join_of_seeking phase, slotAt, spent]
    rfl
  · exact settles_join_of_other (by simp [phase, here])

theorem outlook_of_none (absent : pipeline.channels[position]? = none) :
    pipeline.outlook policy position = [] := by
  rw [outlook, lanes, List.getElem?_map, absent]
  rfl

/-- The outlook on a channel is the ledger for the vertices ahead. -/
theorem outlook_of_getElem?
    {channel : Channel}
    (found : pipeline.channels[position]? = some channel)
    (going : pipeline.phase.isOver = false) :
    pipeline.outlook policy position =
      channel.lane.ledger policy (pipeline.visitsAhead position) := by
  rw [outlook, lanes, List.getElem?_map, found, going]
  rfl

/-- What becomes of the items of a channel at a glance is the first that was to become
of them. -/
theorem append_outlook
    {channel other : Channel}
    {settled : List Settled}
    (found : pipeline.channels[position]? = some channel)
    (exchanged : next.channels[position]? = some other)
    (going : pipeline.phase.isOver = false)
    (goesOn : next.phase.isOver = false)
    (first : settled ++ other.lane.ledger policy (next.visitsAhead position) =
      channel.lane.ledger policy (pipeline.visitsAhead position)) :
    settled ++ next.outlook policy position =
      pipeline.outlook policy position := by
  rw [outlook_of_getElem? found going, outlook_of_getElem? exchanged goesOn,
    first]

/-- The outlook stays where the join is to look at the same channel for the same
vertices. -/
theorem outlook_of_visits
    (same : next.channels[position]? = pipeline.channels[position]?)
    (going : pipeline.phase.isOver = false)
    (goesOn : next.phase.isOver = false)
    (visits : position < pipeline.channels.length ->
      next.visitsAhead position = pipeline.visitsAhead position) :
    next.outlook policy position = pipeline.outlook policy position := by
  cases found : pipeline.channels[position]? with
  | none => rw [outlook_of_none found, outlook_of_none (same.trans found)]
  | some channel =>
      have within := (List.getElem?_eq_some_iff.1 found).1
      rw [outlook_of_getElem? found going,
        outlook_of_getElem? (same.trans found) goesOn, visits within]

end Slots

section Joins

variable
  {setup : Setup σ ρ}
  {pipeline next : Pipeline σ ρ}
  {position : Nat}

/-- What a step of the join makes of an item is the first that was to become of the
items. -/
theorem outlook_joins
    (heeded : pipeline.Heeded setup.sweep.policy)
    (joins : pipeline.Joins setup next)
    (sound : next.phase.isDoomed = false) :
    pipeline.settles position .join ++
        next.outlook setup.sweep.policy position =
      pipeline.outlook setup.sweep.policy position := by
  cases joins with
  | skips item rest phase queue past =>
      rw [settles_join_of_other (by simp [phase]), List.nil_append]
      refine outlook_of_visits rfl (by rw [phase]; rfl) (by rw [phase]; rfl)
        fun _ => ?_
      rw [← pipeline.account.any_last] at past
      simp only [visitsAhead, phase]
      rw [Reader.outstanding_of_queue queue, Item.handledAfter, if_pos past]
      rfl
  | meets item rest live phase queue fresh exist =>
      rw [settles_join_of_other (by simp [phase]), List.nil_append]
      refine outlook_of_visits rfl (by rw [phase]; rfl) rfl fun _ => ?_
      obtain ⟨-, rfl⟩ := Item.of_exists? exist
      rw [← pipeline.account.any_last] at fresh
      simp only [visitsAhead, phase]
      rw [Reader.outstanding_of_queue queue, if_neg (Nat.not_lt_zero position),
        Item.handledAfter, if_neg (by simp [fresh])]
      rfl
  | drains phase queue gone =>
      rw [settles_join_of_other (by simp [phase]), List.nil_append]
      refine outlook_of_visits rfl (by rw [phase]; rfl) rfl fun _ => ?_
      simp only [visitsAhead, phase]
      rw [Reader.outstanding_of_gone gone queue]
      rfl
  | moves id live fetched current channel moved dropped phase found glance =>
      have sound := (heeded (by rw [phase]; rfl)).2 channel
        (List.mem_of_getElem? found)
      have going : pipeline.phase.isOver = false := by
        rw [phase]
        rfl
      by_cases here : current = position
      · subst here
        have within := (List.getElem?_eq_some_iff.1 found).1
        rw [settles_join_of_seeking phase, slotAt_of_getElem? found]
        refine append_outlook found (List.getElem?_set_self within) going going
          ?_
        simp only [visitsAhead, phase, Nat.lt_irrefl, if_false]
        exact Channel.ledger_of_moved ⟨id, live⟩ sound glance
      · rw [settles_join_of_other (by simp [phase, here]), List.nil_append]
        exact outlook_of_visits (List.getElem?_set_ne here) going going
          fun _ => rfl
  | passes id live fetched current channel passed entries phase found glance =>
      have sound := (heeded (by rw [phase]; rfl)).2 channel
        (List.mem_of_getElem? found)
      have going : pipeline.phase.isOver = false := by
        rw [phase]
        rfl
      by_cases here : current = position
      · subst here
        have within := (List.getElem?_eq_some_iff.1 found).1
        rw [settles_join_of_seeking phase, slotAt_of_getElem? found]
        refine append_outlook found (List.getElem?_set_self within) going rfl ?_
        simp only [visitsAhead, phase, Nat.lt_irrefl, if_false,
          Nat.lt_succ_self, if_true]
        exact Channel.ledger_of_passed ⟨id, live⟩ sound glance
      · rw [settles_join_of_other (by simp [phase, here]), List.nil_append]
        refine outlook_of_visits (List.getElem?_set_ne here) going rfl
          fun _ => ?_
        have beyond : position < current + 1 ↔ position < current := by omega
        simp only [visitsAhead, phase, beyond]
  | completes id fetched current phase spent
  | deletes id fetched current phase spent =>
      have short := List.getElem?_eq_none_iff.1 spent
      rw [settles_join_of_spent phase spent, List.nil_append]
      refine outlook_of_visits rfl (by rw [phase]; rfl) rfl fun within => ?_
      simp only [visitsAhead, phase, Nat.lt_of_lt_of_le within short, if_true,
        Account.delete]
  | queues view phase =>
      rw [settles_join_of_other (by simp [phase]), List.nil_append]
      refine outlook_of_visits rfl (by rw [phase]; rfl) rfl fun _ => ?_
      simp only [visitsAhead, phase]
      rfl
  | inlines view phase =>
      rw [settles_join_of_other (by simp [phase]), List.nil_append]
      refine outlook_of_visits rfl (by rw [phase]; rfl) rfl fun _ => ?_
      simp only [visitsAhead, phase]
      rfl
  | resumes phase =>
      rw [settles_join_of_other (by simp [phase]), List.nil_append]
      refine outlook_of_visits rfl (by rw [phase]; rfl) rfl fun _ => ?_
      simp only [visitsAhead, phase]
  | stops phase =>
      have slots : (pipeline.channels.map Channel.cancel).map Channel.slot =
          pipeline.channels.map Channel.slot := List.map_map
      rw [settles_join_of_other (by simp [phase]), List.nil_append,
        outlook_of_received rfl, outlook_of_received (by rw [phase]; rfl),
        unsettled, unsettled, slotAt_congr slots, phase]
      rfl
  | chokes | breaks | fails | abandons | ends => cases sound

/-- The item in a slot stays unsettled while nothing is taken into the slot or out of
it. -/
theorem unsettled_of_slots
    (same : next.slotAt position = pipeline.slotAt position)
    (ended : next.phase.isOver = pipeline.phase.isOver) :
    pipeline.unsettled position ++
        Channel.received (pipeline.slotAt position) (next.slotAt position) =
      next.unsettled position := by
  rw [unsettled, unsettled, same, ended, Channel.received_self, List.append_nil]

/-- What moves into a slot of a channel that is exchanged, or out of it. -/
theorem unsettled_of_exchanged
    {channel other : Channel}
    {items : List Item}
    (found : pipeline.channels[position]? = some channel)
    (exchanged : next.channels[position]? = some other)
    (going : pipeline.phase.isOver = false)
    (goesOn : next.phase.isOver = false)
    (moves : channel.slot.toList ++ Channel.received channel.slot other.slot =
      items ++ other.slot.toList) :
    pipeline.unsettled position ++
        Channel.received channel.slot (next.slotAt position) =
      items ++ next.unsettled position := by
  rw [unsettled, unsettled, going, goesOn, slotAt_of_getElem? found,
    slotAt_of_getElem? exchanged]
  exact moves

/-- What moves into a slot in a step of the join is in the slot then, or something has
become of it. -/
theorem unsettled_joins
    (joins : pipeline.Joins setup next)
    (sound : next.phase.isDoomed = false) :
    pipeline.unsettled position ++
        Channel.received (pipeline.slotAt position) (next.slotAt position) =
      (pipeline.settles position .join).map Settled.item ++
        next.unsettled position := by
  cases joins with
  | moves id live fetched current channel moved dropped phase found glance =>
      by_cases here : current = position
      · subst here
        have within := (List.getElem?_eq_some_iff.1 found).1
        rw [settles_join_of_seeking phase, slotAt_of_getElem? found]
        exact unsettled_of_exchanged found (List.getElem?_set_self within)
          (by rw [phase]; rfl) (by rw [phase]; rfl)
          (Channel.slot_of_moved ⟨id, live⟩ glance)
      · rw [settles_join_of_other (by simp [phase, here])]
        exact unsettled_of_slots (slotAt_of_same (List.getElem?_set_ne here)) rfl
  | passes id live fetched current channel passed entries phase found glance =>
      by_cases here : current = position
      · subst here
        have within := (List.getElem?_eq_some_iff.1 found).1
        rw [settles_join_of_seeking phase, slotAt_of_getElem? found]
        exact unsettled_of_exchanged found (List.getElem?_set_self within)
          (by rw [phase]; rfl) rfl
          (Channel.slot_of_passed ⟨id, live⟩ glance)
      · rw [settles_join_of_other (by simp [phase, here])]
        exact unsettled_of_slots (slotAt_of_same (List.getElem?_set_ne here))
          (by rw [phase]; rfl)
  | completes id fetched current phase spent
  | deletes id fetched current phase spent =>
      rw [settles_join_of_spent phase spent]
      exact unsettled_of_slots rfl (by rw [phase]; rfl)
  | skips item rest phase =>
      rw [settles_join_of_other (by simp [phase])]
      exact unsettled_of_slots rfl rfl
  | meets item rest live phase | queues view phase | inlines view phase
  | resumes phase | drains phase =>
      rw [settles_join_of_other (by simp [phase])]
      exact unsettled_of_slots rfl (by rw [phase]; rfl)
  | stops phase =>
      have slots : (pipeline.channels.map Channel.cancel).map Channel.slot =
          pipeline.channels.map Channel.slot := List.map_map
      rw [settles_join_of_other (by simp [phase])]
      exact unsettled_of_slots (slotAt_congr slots) (by rw [phase]; rfl)
  | chokes | breaks | fails | abandons | ends => cases sound

end Joins

section Act

variable
  [Mergeable σ]
  {setup : Setup σ ρ}
  {pipeline next : Pipeline σ ρ}
  {position : Nat}
  {action : Action}

/-- What an action makes of an item is the first that was to become of the items. -/
theorem outlook_act
    (heeded : pipeline.Heeded setup.sweep.policy)
    (acts : pipeline.act setup action = some next)
    (sound : next.phase.isDoomed = false) :
    pipeline.settles position action ++
        next.outlook setup.sweep.policy position =
      pipeline.outlook setup.sweep.policy position := by
  cases action with
  | join => exact outlook_joins heeded (joins_of_join acts) sound
  | read stream =>
      have reads := reads_of_read acts
      obtain ⟨phase, account, slots⟩ := same_of_reads reads
      exact outlook_congr phase (congrArg Account.last account) slots
        (received_reads heeded reads)
  | pick =>
      obtain ⟨view, rest, queue, rfl⟩ := pick_eq_some acts
      exact outlook_congr rfl rfl rfl fun _ => ⟨rfl, rfl⟩
  | work run =>
      cases works_of_work acts with
      | writes | finishes => exact outlook_congr rfl rfl rfl fun _ => ⟨rfl, rfl⟩
  | breakOff run =>
      obtain ⟨-, -, rfl⟩ := breakOff_eq_some acts
      exact outlook_congr rfl rfl rfl fun _ => ⟨rfl, rfl⟩
  | expire =>
      rw [isDoomed_of_expire acts] at sound
      cases sound
  | release order =>
      cases releases_of_release acts with
      | refused => cases sound
      | merged phase | plain phase =>
          rw [outlook_of_received rfl, outlook_of_received (by rw [phase]; rfl),
            unsettled, unsettled, phase]
          exact List.append_nil _

/-- What moves into a slot is in the slot then, or something has become of it. -/
theorem unsettled_act
    (acts : pipeline.act setup action = some next)
    (sound : next.phase.isDoomed = false) :
    pipeline.unsettled position ++
        Channel.received (pipeline.slotAt position) (next.slotAt position) =
      (pipeline.settles position action).map Settled.item ++
        next.unsettled position := by
  cases action with
  | join => exact unsettled_joins (joins_of_join acts) sound
  | read stream =>
      obtain ⟨phase, -, slots⟩ := same_of_reads (reads_of_read acts)
      exact unsettled_of_slots (slotAt_congr slots)
        (congrArg JoinPhase.isOver phase)
  | pick =>
      obtain ⟨view, rest, queue, rfl⟩ := pick_eq_some acts
      exact unsettled_of_slots rfl rfl
  | work run =>
      cases works_of_work acts with
      | writes | finishes => exact unsettled_of_slots rfl rfl
  | breakOff run =>
      obtain ⟨-, -, rfl⟩ := breakOff_eq_some acts
      exact unsettled_of_slots rfl rfl
  | expire =>
      rw [isDoomed_of_expire acts] at sound
      cases sound
  | release order =>
      cases releases_of_release acts with
      | refused => cases sound
      | merged phase | plain phase =>
          have slots : Channel.received (pipeline.slotAt position)
              (pipeline.slotAt position) = [] := Channel.received_self _
          rw [unsettled, unsettled, phase, settles, List.map_map]
          refine congrArg₂ (· ++ ·) ?_ slots
          cases pipeline.slotAt position <;> rfl

end Act

section Follow

variable
  [Mergeable σ]
  {setup : Setup σ ρ}
  {start : Effects σ ρ}
  {foreseen : Except JobError Account}
  {pipeline next : Pipeline σ ρ}
  {actions : List Action}
  (position : Nat)

/-- Whatever happens, what has become of the items by some time and what is to become
of them then make up what was to become of them, unless the job is bound to end with an
error. -/
theorem outlook_follow
    (faithful : pipeline.Faithful setup start foreseen)
    (follows : pipeline.follow setup actions = some next)
    (sound : next.phase.isDoomed = false) :
    pipeline.settledBy setup position actions ++
        next.outlook setup.sweep.policy position =
      pipeline.outlook setup.sweep.policy position := by
  induction actions generalizing pipeline with
  | nil =>
      cases follows
      rfl
  | cons action actions hypothesis =>
      rw [follow_cons] at follows
      obtain ⟨middle, acts, follows⟩ := Option.bind_eq_some_iff.1 follows
      have soundMiddle := isDoomed_of_follow follows sound
      have later := hypothesis (faithful.act_of_sound acts soundMiddle) follows
      rw [settledBy, acts, List.append_assoc]
      exact (congrArg (_ ++ ·) later).trans
        (outlook_act faithful.heeded acts soundMiddle)

/-- Whatever happens, every item that has moved into a slot is in it still, or something
has become of it once, unless the job is bound to end with an error. -/
theorem unsettled_follow
    (follows : pipeline.follow setup actions = some next)
    (sound : next.phase.isDoomed = false) :
    pipeline.unsettled position ++ pipeline.receivedBy setup position actions =
      (pipeline.settledBy setup position actions).map Settled.item ++
        next.unsettled position := by
  induction actions generalizing pipeline with
  | nil =>
      cases follows
      exact List.append_nil _
  | cons action actions hypothesis =>
      rw [follow_cons] at follows
      obtain ⟨middle, acts, follows⟩ := Option.bind_eq_some_iff.1 follows
      have soundMiddle := isDoomed_of_follow follows sound
      rw [receivedBy, settledBy, acts]
      dsimp only
      rw [← List.append_assoc, unsettled_act acts soundMiddle, List.append_assoc,
        hypothesis follows, List.map_append, List.append_assoc]

end Follow
end Pipeline
end GraphSweep
