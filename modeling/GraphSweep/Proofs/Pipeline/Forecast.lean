import GraphSweep.Proofs.Pipeline.Steps

/-!
# What the join of a job under way is bound to note

At any time the items that the join has not handled yet, wherever they are on the
way from the store, make up the rest of the feeds. So what the join will have
noted in the end can be foretold from where it stands, and no step of a reader, of
a worker or of the join itself changes the forecast. It does not depend on how far
the readers have got when one of them fails.
-/

namespace GraphSweep

namespace Sought

/-- A search with some more items dropped on the way. -/
def dropMore (sought : Sought) (count : Nat) : Sought :=
  { sought with dropped := sought.dropped + count }

/-- Dropping nothing more makes no difference. -/
theorem map_dropMore_zero (found : Except JobError Sought) :
    found.map (dropMore · 0) = found := by
  cases found <;> rfl

end Sought

namespace Lane

/-- How a lane is advanced is settled by the items that are gone through, whatever
the lane is said to hold. -/
theorem seekItems_congr
    (policy : FailurePolicy)
    (lane : Lane)
    (held : Option Item)
    (rest : List Item)
    (id : VertexId)
    (items : List Item) :
    seekItems policy { lane with held := held, rest := rest } id items =
      seekItems policy lane id items := by
  induction items with
  | nil => rfl
  | cons item items hypothesis => rw [seekItems, seekItems, hypothesis]

/-- An item may be taken from a stream before it is looked at. -/
theorem seek_of_taken
    (policy : FailurePolicy)
    (lane : Lane)
    {item : Item}
    {rest : List Item}
    (id : VertexId)
    (empty : lane.held = none)
    (next : lane.rest = item :: rest) :
    lane.seek policy id =
      seek policy { lane with held := some item, rest := rest } id := by
  have taken := seekItems_congr policy lane (some item) rest id (item :: rest)
  rw [seek, empty, next]
  exact taken.symm

end Lane

namespace Channel

/-- What the join is still to receive from a channel. -/
def lane (channel : Channel) : Lane where
  stream := channel.stream
  query := channel.query
  held := channel.slot
  rest := channel.reader.outstanding.items
  ending := channel.reader.outstanding.ending

/-- A channel whose reader was not told to stop, and which counts as finished only
after its reader has ended well. -/
structure Sound (policy : FailurePolicy) (channel : Channel) : Prop where
  heeded : channel.reader.cancelled = false
  finished : channel.finished ->
    channel.reader.isGone ∧ channel.reader.queue = [] ∧
      channel.reader.status.verdict policy channel.stream = .ok ()

section Seek

variable {policy : FailurePolicy} {channel next : Channel} {id : VertexId}

/-- A channel without an item, whose reader has stopped, is at its end. -/
theorem seek_of_gone
    (gone : channel.reader.isGone)
    (drained : channel.reader.queue = [])
    (empty : channel.slot = none) :
    channel.lane.seek policy id =
      (channel.reader.status.verdict policy channel.stream).map fun _ =>
        ⟨none, channel.lane, 0⟩ := by
  have outstanding := Reader.outstanding_of_gone gone drained
  simp only [lane, Lane.seek, empty, outstanding, Option.toList_none,
    List.nil_append, Lane.seekItems, ReaderStatus.atEnd_ending]
  cases channel.reader.status.verdict policy channel.stream <;> rfl

/-- What the join takes or drops at a glance makes no difference to what it will
find for the vertex. -/
theorem seek_of_moved
    {dropped : Nat}
    (sound : channel.Sound policy)
    (moved : channel.glance policy id = .moved next dropped) :
    next.Sound policy ∧
      channel.lane.seek policy id =
        (next.lane.seek policy id).map (Sought.dropMore · dropped) := by
  have glances := channel.glances policy id
  rw [moved] at glances
  cases glances with
  | drops item holds earlier =>
      refine ⟨⟨sound.heeded, sound.finished⟩, ?_⟩
      have held : channel.lane.held = some item := holds
      have later : Lane.seek policy (lane { channel with slot := none }) id =
          Lane.seekItems policy channel.lane id channel.lane.rest :=
        Lane.seekItems_congr policy channel.lane none _ id _
      rw [Lane.seek, held, Option.toList_some, List.singleton_append,
        Lane.seekItems, if_pos earlier, ← later]
      cases Lane.seek policy (lane { channel with slot := none }) id <;> rfl
  | takes item rest empty going queue =>
      refine ⟨⟨sound.heeded, ?_⟩, ?_⟩
      · intro finished
        rw [going] at finished
        cases finished
      · rw [Sought.map_dropMore_zero]
        apply channel.lane.seek_of_taken policy id empty
        rw [lane, Reader.outstanding, queue]
        rfl
  | finishes empty going drained gone well =>
      refine ⟨⟨sound.heeded, fun _ => ⟨gone, drained, well⟩⟩, ?_⟩
      rw [Sought.map_dropMore_zero]
      rfl

/-- What the join passes a channel with is all that it has for the vertex. -/
theorem seek_of_passed
    {entries : Option (List Entry)}
    (sound : channel.Sound policy)
    (passed : channel.glance policy id = .passed next entries) :
    next.Sound policy ∧ next.query = channel.query ∧
      channel.lane.seek policy id = .ok ⟨entries, next.lane, 0⟩ := by
  have glances := channel.glances policy id
  rw [passed] at glances
  cases glances with
  | claims item holds same =>
      refine ⟨⟨sound.heeded, sound.finished⟩, rfl, ?_⟩
      have held : channel.lane.held = some item := holds
      have reached : ¬item.id < id := by
        rw [same]
        exact Int64.lt_irrefl
      rw [Lane.seek, held, Option.toList_some, List.singleton_append,
        Lane.seekItems, if_neg reached, if_pos same]
      rfl
  | keeps item holds reached other =>
      refine ⟨sound, rfl, ?_⟩
      have held : channel.lane.held = some item := holds
      rw [Lane.seek, held, Option.toList_some, List.singleton_append,
        Lane.seekItems, if_neg reached, if_neg other, ← held]
  | lacks empty finished =>
      obtain ⟨gone, drained, well⟩ := sound.finished finished
      refine ⟨sound, rfl, ?_⟩
      rw [seek_of_gone gone drained empty, well]
      rfl

/-- A channel that the join finds broken has nothing for the vertex but its bad
end. -/
theorem seek_of_broken
    {error : JobError}
    (broken : channel.glance policy id = .broken error) :
    channel.lane.seek policy id = .error error := by
  have glances := channel.glances policy id
  rw [broken] at glances
  cases glances with
  | breaks _ empty going drained gone badly =>
      rw [seek_of_gone gone drained empty, badly]
      rfl

end Seek
end Channel

namespace Setup

variable {σ ρ : Type}

/-- What is noted in the end, unless the read context cannot be released. -/
def released (setup : Setup σ ρ) (account : Account) :
    Except JobError Account :=
  match setup.releaseFault with
  | some fault => .error (.storage fault)
  | none => .ok account

/-- What a job comes to note that goes on from a course with the rest of the first
stream. -/
def foresee
    (setup : Setup σ ρ)
    (course : Course)
    (feed : Feed) : Except JobError Account :=
  (course.run setup.sweep.policy feed.ending feed.items).bind fun last =>
    setup.released last.close

/-- An item of the first stream is foreseen to be handled. -/
theorem foresee_cons
    (setup : Setup σ ρ)
    (course : Course)
    (item : Item)
    (rest : List Item)
    (ending : FeedEnd) :
    setup.foresee course ⟨item :: rest, ending⟩ =
      (course.step setup.sweep.policy item).bind fun next =>
        setup.foresee next ⟨rest, ending⟩ := by
  rw [foresee, Course.run_cons]
  cases course.step setup.sweep.policy item <;> rfl

/-- The end of the first stream is foreseen to end the job. -/
theorem foresee_nil
    (setup : Setup σ ρ)
    (course : Course)
    (ending : FeedEnd) :
    setup.foresee course ⟨[], ending⟩ =
      (setup.sweep.policy.atEnd 0 ending).bind fun _ =>
        setup.released course.close := by
  rw [foresee, Course.run_nil]
  cases setup.sweep.policy.atEnd 0 ending <;> rfl

end Setup

namespace JoinPhase

/-- Whether the join is still to receive items. -/
def receives : JoinPhase -> Bool
  | probing | seeking _ _ _ _ | submitting _ | inlining => true
  | draining | stopping | failing _ | abandoning _ | ended _ => false

end JoinPhase

namespace Pipeline

variable {σ ρ : Type}

/-- What the join is still to receive from the data streams. -/
def lanes (pipeline : Pipeline σ ρ) : List Lane :=
  pipeline.channels.map Channel.lane

/-- What the join comes to note that has met a vertex, has fetched some entries for
it, and is to look at some more lanes. -/
def foreseeMet
    (setup : Setup σ ρ)
    (feed : Feed)
    (account : Account)
    (id : VertexId)
    (live : Bool)
    (fetched : List (Slice × List Entry))
    (passed lanes : List Lane) : Except JobError Account :=
  (Lane.seekAll setup.sweep.policy id lanes).bind fun sought =>
    setup.foresee
      ⟨(account.drop (Sought.totalDropped sought)).settle live
          ⟨id, fetched ++ Sought.fetched sought⟩,
        passed ++ sought.map Sought.lane⟩
      feed

/-- What the job comes to note. -/
def forecast
    (setup : Setup σ ρ)
    (pipeline : Pipeline σ ρ) : Except JobError Account :=
  match pipeline.phase with
  | .probing | .inlining =>
      setup.foresee ⟨pipeline.account, pipeline.lanes⟩
        pipeline.primary.outstanding
  | .seeking id live fetched position =>
      foreseeMet setup pipeline.primary.outstanding pipeline.account id live
        fetched (pipeline.lanes.take position) (pipeline.lanes.drop position)
  | .submitting view =>
      setup.foresee ⟨pipeline.account.dispatch view, pipeline.lanes⟩
        pipeline.primary.outstanding
  | .draining | .stopping =>
      setup.released (pipeline.account.drop pipeline.leftover)
  | .failing error | .abandoning error => .error error
  | .ended result => result.map fun _ => pipeline.account.drop pipeline.leftover

section Met

variable
  {setup : Setup σ ρ}
  {feed : Feed}
  {account : Account}
  {id : VertexId}
  {live : Bool}
  {fetched : List (Slice × List Entry)}
  {passed others : List Lane}
  {lane next : Lane}

/-- Handling a vertex of the first stream begins by looking at the first lane. -/
theorem foresee_met
    {item : Item}
    {rest : List Item}
    {ending : FeedEnd}
    (fresh : account.isPast item.id = false)
    (exist : item.exists? = .ok live) :
    setup.foresee ⟨account, others⟩ ⟨item :: rest, ending⟩ =
      foreseeMet setup ⟨rest, ending⟩ (account.meet item.id) item.id live [] []
        others := by
  rw [Setup.foresee_cons, Course.step, if_neg (by simp [fresh]), exist,
    foreseeMet]
  cases Lane.seekAll setup.sweep.policy item.id others <;> rfl

/-- After the last lane the vertex has been met in full. -/
theorem foreseeMet_nil :
    foreseeMet setup feed account id live fetched passed [] =
      setup.foresee ⟨account.settle live ⟨id, fetched⟩, passed⟩ feed := by
  have sought : Lane.seekAll setup.sweep.policy id [] = .ok [] := rfl
  rw [foreseeMet, sought]
  simp only [Except.bind, Sought.totalDropped, Account.drop_zero,
    Sought.fetched, List.filterMap_nil, List.append_nil, List.map_nil]

/-- Items that a lane drops on the way may be noted at once. -/
theorem foreseeMet_dropMore
    {dropped : Nat}
    (seek : lane.seek setup.sweep.policy id =
      (next.seek setup.sweep.policy id).map (Sought.dropMore · dropped)) :
    foreseeMet setup feed account id live fetched passed (lane :: others) =
      foreseeMet setup feed (account.drop dropped) id live fetched passed
        (next :: others) := by
  simp only [foreseeMet, Lane.seekAll]
  rw [seek]
  cases next.seek setup.sweep.policy id with
  | error error => rfl
  | ok found =>
      cases Lane.seekAll setup.sweep.policy id others with
      | error error => rfl
      | ok sought =>
          have total : account.drop
              (found.dropped + dropped + Sought.totalDropped sought) =
            (account.drop dropped).drop
              (found.dropped + Sought.totalDropped sought) := by
            rw [Account.drop_drop]
            congr 1
            omega
          exact congrArg (fun noted : Account => setup.foresee
            ⟨noted.settle live ⟨id, fetched ++ Sought.fetched (found :: sought)⟩,
              passed ++ (found :: sought).map Sought.lane⟩ feed) total

/-- What a lane has for the vertex joins what has been fetched. -/
theorem foreseeMet_found
    {entries : Option (List Entry)}
    (seek : lane.seek setup.sweep.policy id = .ok ⟨entries, next, 0⟩) :
    foreseeMet setup feed account id live fetched passed (lane :: others) =
      foreseeMet setup feed account id live
        (fetched ++ (entries.map fun entries => (next.query, entries)).toList)
        (passed ++ [next]) others := by
  simp only [foreseeMet, Lane.seekAll]
  rw [seek]
  cases Lane.seekAll setup.sweep.policy id others with
  | error error => rfl
  | ok sought =>
      have total : Sought.totalDropped (⟨entries, next, 0⟩ :: sought) =
          Sought.totalDropped sought := Nat.zero_add _
      have found : fetched ++ Sought.fetched (⟨entries, next, 0⟩ :: sought) =
          fetched ++
            (entries.map fun entries => (next.query, entries)).toList ++
            Sought.fetched sought := by
        rw [List.append_assoc]
        cases entries <;> rfl
      have lanes : passed ++ (⟨entries, next, 0⟩ :: sought).map Sought.lane =
          passed ++ [next] ++ sought.map Sought.lane := by
        rw [List.append_assoc]
        rfl
      simp only [bind, Except.bind, pure, Except.pure, total, found, lanes]

/-- A lane that ends badly ends the job. -/
theorem foreseeMet_error
    {error : JobError}
    (seek : lane.seek setup.sweep.policy id = .error error) :
    foreseeMet setup feed account id live fetched passed (lane :: others) =
      .error error := by
  simp only [foreseeMet, Lane.seekAll]
  rw [seek]
  rfl

end Met

/-! ## The forecast stays -/

/-- The items left over are those in the slots. -/
theorem leftover_eq_map_slot (pipeline : Pipeline σ ρ) :
    pipeline.leftover =
      ((pipeline.channels.map Channel.slot).filter Option.isSome).length := by
  rw [leftover, List.filter_map, List.length_map]
  rfl

/-- Closing the course of a job counts the items left over. -/
theorem close_lanes (pipeline : Pipeline σ ρ) (account : Account) :
    Course.close ⟨account, pipeline.lanes⟩ =
      account.drop pipeline.leftover := by
  rw [Course.close, lanes, List.filter_map, List.length_map]
  rfl

/-- While the join receives items, it has told no reader to stop, and it has seen
the ends of streams only that ended well. -/
def Heeded (policy : FailurePolicy) (pipeline : Pipeline σ ρ) : Prop :=
  pipeline.phase.receives ->
    pipeline.primary.cancelled = false ∧
      ∀ channel ∈ pipeline.channels, channel.Sound policy

section Forecast

variable {setup : Setup σ ρ} {pipeline next : Pipeline σ ρ}

/-- What the forecast rests on. -/
theorem forecast_congr
    (phase : next.phase = pipeline.phase)
    (account : next.account = pipeline.account)
    (slots : next.channels.map Channel.slot = pipeline.channels.map Channel.slot)
    (received : pipeline.phase.receives ->
      next.lanes = pipeline.lanes ∧
        next.primary.outstanding = pipeline.primary.outstanding) :
    next.forecast setup = pipeline.forecast setup := by
  have leftover : next.leftover = pipeline.leftover := by
    rw [leftover_eq_map_slot, leftover_eq_map_slot, slots]
  unfold forecast
  rw [phase, account, leftover]
  cases current : pipeline.phase with
  | probing | inlining | submitting view | seeking id live fetched position =>
      obtain ⟨lanes, outstanding⟩ := received (by rw [current]; rfl)
      simp only [lanes, outstanding]
  | draining | stopping | failing error | abandoning error | ended result => rfl

/-- The counts of a job rest on what the join has noted and the runs came to. -/
theorem tally_congr
    (account : next.account = pipeline.account)
    (slots : next.channels.map Channel.slot = pipeline.channels.map Channel.slot)
    (effects : next.effects = pipeline.effects)
    (inlined : next.inlined = pipeline.inlined) :
    next.tally = pipeline.tally := by
  rw [tally, tally, account, effects, inlined, leftover_eq_map_slot,
    leftover_eq_map_slot, slots]

/-- What a reader does leaves the join as it is, and the items in the slots. -/
theorem same_of_reads (reads : pipeline.Reads setup next) :
    next.phase = pipeline.phase ∧ next.account = pipeline.account ∧
      next.channels.map Channel.slot = pipeline.channels.map Channel.slot := by
  cases reads with
  | primary => exact ⟨rfl, rfl, rfl⟩
  | channel position channel reader events found =>
      exact ⟨rfl, rfl, map_set_of_eq found rfl⟩

/-- What a reader does makes no difference to what the join is to receive. -/
theorem received_reads
    (heeded : pipeline.Heeded setup.sweep.policy)
    (reads : pipeline.Reads setup next)
    (receives : pipeline.phase.receives) :
    next.lanes = pipeline.lanes ∧
      next.primary.outstanding = pipeline.primary.outstanding := by
  obtain ⟨primary, channels⟩ := heeded receives
  cases reads with
  | primary reader events advances =>
      exact ⟨rfl, Reader.outstanding_advance primary advances⟩
  | channel position channel reader events found advances =>
      refine ⟨map_set_of_eq found ?_, rfl⟩
      have sound := channels channel (List.mem_of_getElem? found)
      have outstanding := Reader.outstanding_advance sound.heeded advances
      simp only [Channel.lane, outstanding]

/-- What a reader does makes no difference to the forecast. -/
theorem forecast_reads
    (heeded : pipeline.Heeded setup.sweep.policy)
    (reads : pipeline.Reads setup next) :
    next.forecast setup = pipeline.forecast setup := by
  obtain ⟨phase, account, slots⟩ := same_of_reads reads
  exact forecast_congr phase account slots (received_reads heeded reads)

/-- What a reader does tells no reader to stop. -/
theorem Heeded.reads
    (heeded : pipeline.Heeded setup.sweep.policy)
    (reads : pipeline.Reads setup next) :
    next.Heeded setup.sweep.policy := by
  cases reads with
  | primary reader events advances =>
      intro receives
      obtain ⟨primary, channels⟩ := heeded receives
      exact ⟨(Reader.cancelled_advance advances).trans primary, channels⟩
  | channel position channel reader events found advances =>
      intro receives
      obtain ⟨primary, channels⟩ := heeded receives
      refine ⟨primary, ?_⟩
      intro other member
      rcases List.mem_or_eq_of_mem_set member with old | rfl
      · exact channels other old
      · have sound := channels channel (List.mem_of_getElem? found)
        refine ⟨(Reader.cancelled_advance advances).trans sound.heeded, ?_⟩
        intro finished
        have gone := (sound.finished finished).1
        rw [Reader.advance_of_gone gone] at advances
        cases advances

/-- The lanes from a position on, of which the first has been exchanged. -/
theorem drop_lanes_set
    {position : Nat}
    {channel other : Channel}
    (found : pipeline.channels[position]? = some channel) :
    ((pipeline.channels.set position other).map Channel.lane).drop position =
      other.lane :: pipeline.lanes.drop (position + 1) := by
  obtain ⟨within, -⟩ := List.getElem?_eq_some_iff.1 found
  rw [List.map_set, List.drop_eq_getElem?_toList_append,
    List.getElem?_set_self (by simpa using within),
    List.drop_set_of_lt (Nat.lt_succ_self position)]
  rfl

/-- The lanes from a position on. -/
theorem drop_lanes
    {position : Nat}
    {channel : Channel}
    (found : pipeline.channels[position]? = some channel) :
    pipeline.lanes.drop position =
      channel.lane :: pipeline.lanes.drop (position + 1) := by
  rw [List.drop_eq_getElem?_toList_append, lanes, List.getElem?_map, found]
  rfl

/-- No step of the join changes the forecast. -/
theorem forecast_joins
    (heeded : pipeline.Heeded setup.sweep.policy)
    (joins : pipeline.Joins setup next) :
    next.forecast setup = pipeline.forecast setup := by
  cases joins with
  | skips item rest phase queue past =>
      simp only [forecast, phase]
      rw [Reader.outstanding_of_queue queue, Setup.foresee_cons, Course.step,
        if_pos past]
      rfl
  | meets item rest live phase queue fresh exist =>
      simp only [forecast, phase]
      rw [Reader.outstanding_of_queue queue, foresee_met fresh exist]
      rfl
  | chokes item rest error phase queue fresh exist =>
      simp only [forecast, phase]
      rw [Reader.outstanding_of_queue queue, Setup.foresee_cons, Course.step,
        if_neg (by simp [fresh]), exist]
      rfl
  | drains phase queue gone well =>
      simp only [forecast, phase]
      rw [Reader.outstanding_of_gone gone queue, Setup.foresee_nil,
        ReaderStatus.atEnd_ending, well, close_lanes]
      rfl
  | breaks error phase queue gone badly =>
      simp only [forecast, phase]
      rw [Reader.outstanding_of_gone gone queue, Setup.foresee_nil,
        ReaderStatus.atEnd_ending, badly]
      rfl
  | moves id live fetched position channel moved dropped phase found glance =>
      have sound := (heeded (by rw [phase]; rfl)).2 channel
        (List.mem_of_getElem? found)
      have seek := (Channel.seek_of_moved sound glance).2
      simp only [forecast, phase]
      rw [drop_lanes found, foreseeMet_dropMore seek]
      simp only [lanes]
      rw [drop_lanes_set found, List.map_set,
        List.take_set_of_le (Nat.le_refl position)]
      rfl
  | passes id live fetched position channel passed entries phase found glance =>
      have sound := (heeded (by rw [phase]; rfl)).2 channel
        (List.mem_of_getElem? found)
      obtain ⟨-, query, seek⟩ := Channel.seek_of_passed sound glance
      have within := (List.getElem?_eq_some_iff.1 found).1
      simp only [forecast, phase]
      rw [drop_lanes found, foreseeMet_found seek]
      simp only [lanes]
      rw [List.map_set, List.drop_set_of_lt (Nat.lt_succ_self position),
        List.take_add_one, List.take_set_of_le (Nat.le_refl position),
        List.getElem?_set_self (by simpa using within)]
      simp only [Channel.lane, query]
      rfl
  | fails id live fetched position channel error phase found glance =>
      simp only [forecast, phase]
      rw [drop_lanes found, foreseeMet_error (Channel.seek_of_broken glance)]
  | completes id fetched position phase spent =>
      have short : pipeline.lanes.length ≤ position := by
        simpa [lanes] using spent
      simp only [forecast, phase]
      rw [List.drop_of_length_le short, List.take_of_length_le short,
        foreseeMet_nil]
      rfl
  | deletes id fetched position phase spent =>
      have short : pipeline.lanes.length ≤ position := by
        simpa [lanes] using spent
      simp only [forecast, phase]
      rw [List.drop_of_length_le short, List.take_of_length_le short,
        foreseeMet_nil]
      rfl
  | queues view phase room =>
      simp only [forecast, phase]
      rfl
  | inlines view phase full =>
      simp only [forecast, phase]
      rfl
  | resumes phase idle =>
      simp only [forecast, phase]
      rfl
  | stops phase drained idle =>
      simp only [forecast, phase, leftover_eq_map_slot, cancelReaders,
        List.map_map]
      rfl
  | abandons error phase =>
      simp only [forecast, phase]
  | ends error phase stopped =>
      simp only [forecast, phase]
      rfl

/-- The join tells no reader to stop before it has received all that it is to
receive. -/
theorem Heeded.joins
    (heeded : pipeline.Heeded setup.sweep.policy)
    (joins : pipeline.Joins setup next) :
    next.Heeded setup.sweep.policy := by
  cases joins with
  | moves id live fetched position channel moved dropped phase found glance =>
      intro receives
      obtain ⟨primary, channels⟩ := heeded receives
      refine ⟨primary, ?_⟩
      intro other member
      rcases List.mem_or_eq_of_mem_set member with old | rfl
      · exact channels other old
      · have sound := channels channel (List.mem_of_getElem? found)
        exact (Channel.seek_of_moved sound glance).1
  | passes id live fetched position channel passed entries phase found glance =>
      intro _
      obtain ⟨primary, channels⟩ := heeded (by rw [phase]; rfl)
      refine ⟨primary, ?_⟩
      intro other member
      rcases List.mem_or_eq_of_mem_set member with old | rfl
      · exact channels other old
      · have sound := channels channel (List.mem_of_getElem? found)
        exact (Channel.seek_of_passed sound glance).1
  | skips item rest phase | meets item rest live phase
  | completes id fetched position phase | deletes id fetched position phase
  | queues view phase | inlines view phase | resumes phase =>
      intro _
      exact heeded (by rw [phase]; rfl)
  | chokes | drains | breaks | fails | stops | abandons | ends =>
      intro receives
      cases receives

end Forecast

end Pipeline
end GraphSweep
