import RemoteQuery.Proofs.ResultFile.Channel
import RemoteQuery.Results.Bulk

/-! # The batches of an open file

An open file hands out its batches in their order, one of them as each page. The same pages
come of a live source, which takes its batches out of a channel while the file is parsed,
whenever the parser goes on.
-/

namespace RemoteQuery

open ResultFile (Batch Channel)

variable {σ : Type}

/-! ## Open files -/

def FileStream.toCome (stream : FileStream) : List Batch :=
  stream.lookahead.toList ++ stream.remaining

theorem FileStream.take_eq (stream : FileStream) :
    stream.take =
      (stream.toCome.head?, { remaining := stream.toCome.tail, handedOut := stream.handedOut }) := by
  rcases stream with ⟨_ | batch, remaining, handedOut⟩
  · cases remaining <;> rfl
  · rfl

namespace BulkSource

def askFile (environment : Environment σ) (source : BulkSource σ) (world : World σ) :
    Except Fault Download × World σ :=
  source.retry.run environment source.subject.scope source.token
    (fun world : World σ => world.ask (.object source.location.uri)
      (source.object source.location.uri)) world

def opened (source : BulkSource σ) (download : Download) : FileStream :=
  { remaining := ResultFile.batches source.location.format source.pageSize download }

theorem download_eq (environment : Environment σ) (source : BulkSource σ) (world : World σ) :
    source.download environment world =
      ((source.askFile environment world).1.map source.opened,
        (source.askFile environment world).2) := rfl

section

variable (source : BulkSource σ) {stream : FileStream} {rest : List Batch}

theorem nextPage_of_rows {rows : List RawRow} (coming : stream.toCome = .ok rows :: rest) :
    source.nextPage stream =
      (.ok (.of source.columns rows
          (rest.head?.map fun _ => Number.text (stream.handedOut + 1)) none),
        { source with
          stream := some
            { lookahead := rest.head?
              remaining := rest.tail
              handedOut := stream.handedOut + 1 } }) := by
  rw [nextPage, stream.take_eq, coming]
  rfl

theorem nextPage_of_error {fault : Fault} (coming : stream.toCome = .error fault :: rest) :
    source.nextPage stream =
      (.error fault,
        { source with
          stream := some { remaining := rest, handedOut := stream.handedOut } }) := by
  rw [nextPage, stream.take_eq, coming]
  rfl

theorem nextPage_of_nothing (coming : stream.toCome = []) :
    source.nextPage stream =
      (.ok (.of source.columns [] none none), { source with stream := none }) := by
  rw [nextPage, stream.take_eq, coming]
  rfl

end

/-! ### The next page, by what is asked for -/

section

variable {environment : Environment σ} {source : BulkSource σ} {world reached : World σ}

theorem fetch_none_of_error {fault : Fault}
    (asked : source.askFile environment world = (.error fault, reached)) :
    source.fetch environment none world = (.error fault, source, reached) := by
  rw [fetch, download_eq, asked]
  rfl

theorem fetch_none {download : Download}
    (asked : source.askFile environment world = (.ok download, reached)) :
    source.fetch environment none world =
      ((source.nextPage (source.opened download)).1,
        (source.nextPage (source.opened download)).2, reached) := by
  rw [fetch, download_eq, asked]
  rfl

theorem fetch_latest {stream : FileStream} (isOpen : source.stream = some stream) :
    source.fetch environment (some stream.pageToken) world =
      ((source.nextPage stream).1, (source.nextPage stream).2, world) := by
  rw [fetch, isOpen]
  exact if_pos rfl

theorem fetch_stale {pageToken : String}
    (stale : source.stream.map (·.pageToken) ≠ some pageToken) :
    source.fetch environment (some pageToken) world =
      (.error (.usage (notLatestMessage source.subject.queryId)), source, world) := by
  rw [fetch]
  cases isOpen : source.stream with
  | none => rfl
  | some stream =>
      rw [isOpen, Option.map_some, ne_eq, Option.some.injEq] at stale
      exact if_neg stale

end

end BulkSource

/-! ## Live sources -/

/-- An open file that is still being parsed. -/
structure LiveStream where
  lookahead : Option Batch := none
  channel : Channel
  handedOut : Nat := 0

namespace LiveStream

def pageToken (stream : LiveStream) : String :=
  Number.text stream.handedOut

def settled (stream : LiveStream) : FileStream :=
  { lookahead := stream.lookahead
    remaining := stream.channel.toCome
    handedOut := stream.handedOut }

inductive Takes : LiveStream → Option Batch → LiveStream → Prop
  | ahead {batch : Batch} {channel : Channel} {handedOut : Nat} :
      Takes ⟨some batch, channel, handedOut⟩ (some batch) ⟨none, channel, handedOut⟩
  | received {channel after : Channel} {taken : Option Batch} {handedOut : Nat}
      (receives : channel.Receives taken after) :
      Takes ⟨none, channel, handedOut⟩ taken ⟨none, after, handedOut⟩

theorem exists_takes (stream : LiveStream) : ∃ taken after, stream.Takes taken after := by
  rcases stream with ⟨_ | batch, channel, handedOut⟩
  · rcases channel.exists_receives with ⟨taken, after, receives⟩
    exact ⟨taken, _, .received receives⟩
  · exact ⟨some batch, _, .ahead⟩

theorem Takes.settled {stream after : LiveStream} {taken : Option Batch}
    (takes : stream.Takes taken after) :
    taken = stream.settled.toCome.head? ∧ after.lookahead = none ∧
      after.channel.toCome = stream.settled.toCome.tail ∧ after.handedOut = stream.handedOut := by
  cases takes with
  | ahead => exact ⟨rfl, rfl, rfl, rfl⟩
  | received receives => exact ⟨receives.isNext.1, rfl, receives.isNext.2, rfl⟩

end LiveStream

structure LiveSource (σ : Type) where
  source : BulkSource σ
  stream : Option LiveStream := none

namespace LiveSource

def settled (live : LiveSource σ) : BulkSource σ :=
  { live.source with stream := live.stream.map (·.settled) }

def opened (live : LiveSource σ) (download : Download) : LiveStream :=
  { channel :=
      .start live.source.pageSize (ResultFile.read live.source.location.format download) }

/-- The next page of an open file. Behind a page the reader waits until it knows whether
something is left. -/
inductive Turns (live : LiveSource σ) (stream : LiveStream) :
    Except Fault Page → LiveSource σ → Prop
  | page {rows : List RawRow} {taken : LiveStream} {ahead : Option Batch} {channel : Channel}
      (takes : stream.Takes (some (.ok rows)) taken)
      (looks : taken.channel.Receives ahead channel) :
      Turns live stream
        (.ok (.of live.source.columns rows
          (ahead.map fun _ => Number.text (taken.handedOut + 1)) none))
        { live with stream := some ⟨ahead, channel, taken.handedOut + 1⟩ }
  | broken {fault : Fault} {taken : LiveStream}
      (takes : stream.Takes (some (.error fault)) taken) :
      Turns live stream (.error fault) { live with stream := some taken }
  | nothing {taken : LiveStream} (takes : stream.Takes none taken) :
      Turns live stream (.ok (.of live.source.columns [] none none)) { live with stream := none }

inductive Fetches (environment : Environment σ) (live : LiveSource σ) :
    Option String → World σ → Except Fault Page → LiveSource σ → World σ → Prop
  | unavailable {fault : Fault} {world reached : World σ}
      (asked : live.source.askFile environment world = (.error fault, reached)) :
      Fetches environment live none world (.error fault) live reached
  | first {download : Download} {answer : Except Fault Page} {after : LiveSource σ}
      {world reached : World σ}
      (asked : live.source.askFile environment world = (.ok download, reached))
      (turns : live.Turns (live.opened download) answer after) :
      Fetches environment live none world answer after reached
  | latest {stream : LiveStream} {answer : Except Fault Page} {after : LiveSource σ}
      {world : World σ} (isOpen : live.stream = some stream)
      (turns : live.Turns stream answer after) :
      Fetches environment live (some stream.pageToken) world answer after world
  | stale {pageToken : String} {world : World σ}
      (stale : live.stream.map (·.pageToken) ≠ some pageToken) :
      Fetches environment live (some pageToken) world
        (.error (.usage (BulkSource.notLatestMessage live.source.subject.queryId))) live world

theorem exists_turns (live : LiveSource σ) (stream : LiveStream) :
    ∃ answer after, live.Turns stream answer after := by
  rcases stream.exists_takes with ⟨_ | _ | rows, taken, takes⟩
  · exact ⟨_, _, .nothing takes⟩
  · exact ⟨_, _, .broken takes⟩
  · rcases taken.channel.exists_receives with ⟨ahead, channel, looks⟩
    exact ⟨_, _, .page takes looks⟩

/-- Every request is answered at last. -/
theorem exists_fetches (environment : Environment σ) (live : LiveSource σ)
    (pageToken : Option String) (world : World σ) :
    ∃ answer after reached, live.Fetches environment pageToken world answer after reached := by
  cases pageToken with
  | none =>
      rcases asked : live.source.askFile environment world with ⟨_ | download, reached⟩
      · exact ⟨_, _, _, .unavailable asked⟩
      · rcases live.exists_turns (live.opened download) with ⟨answer, after, turns⟩
        exact ⟨_, _, _, .first asked turns⟩
  | some pageToken =>
      by_cases latest : live.stream.map (·.pageToken) = some pageToken
      · rcases Option.map_eq_some_iff.mp latest with ⟨stream, isOpen, rfl⟩
        rcases live.exists_turns stream with ⟨answer, after, turns⟩
        exact ⟨_, _, _, .latest isOpen turns⟩
      · exact ⟨_, _, _, .stale latest⟩

private theorem eq_cons_of_head? {taken : Batch} {coming rest : List Batch}
    (front : some taken = coming.head?) (behind : rest = coming.tail) :
    coming = taken :: rest := by
  cases coming with
  | nil => cases front
  | cons batch later =>
      cases front
      cases behind
      rfl

theorem Turns.settled {live after : LiveSource σ} {stream : LiveStream}
    {answer : Except Fault Page} (turns : live.Turns stream answer after) :
    live.settled.nextPage stream.settled = (answer, after.settled) := by
  cases turns with
  | @page rows taken ahead channel takes looks =>
      rcases takes.settled with ⟨front, -, behind, same⟩
      rw [live.settled.nextPage_of_rows (eq_cons_of_head? front behind), ← looks.isNext.1,
        ← looks.isNext.2, same]
      rfl
  | @broken fault taken takes =>
      rcases takes.settled with ⟨front, empty, behind, same⟩
      rw [live.settled.nextPage_of_error (eq_cons_of_head? front behind)]
      rcases taken with ⟨lookahead, channel, handedOut⟩
      cases empty
      cases same
      rfl
  | nothing takes =>
      exact live.settled.nextPage_of_nothing (List.head?_eq_none_iff.mp takes.settled.1.symm)

theorem settled_opened (live : LiveSource σ) (download : Download) :
    (live.opened download).settled = live.settled.opened download := by
  simp only [LiveStream.settled, opened, BulkSource.opened, Channel.toCome_start, settled]

/-- Whenever the parser goes on, the answer is the one that the source gives which has all
batches of its file. -/
theorem Fetches.settled {environment : Environment σ} {live after : LiveSource σ}
    {pageToken : Option String} {world reached : World σ} {answer : Except Fault Page}
    (fetches : live.Fetches environment pageToken world answer after reached) :
    live.settled.fetch environment pageToken world = (answer, after.settled, reached) := by
  cases fetches with
  | unavailable asked => exact BulkSource.fetch_none_of_error asked
  | @first download answer after world reached asked turns =>
      have asked : live.settled.askFile environment world = (.ok download, reached) := asked
      rw [BulkSource.fetch_none asked, ← settled_opened, turns.settled]
  | @latest stream answer after world isOpen turns =>
      have isOpen : live.settled.stream = some stream.settled := by
        rw [LiveSource.settled, isOpen, Option.map_some]
      have fetched : live.settled.fetch environment (some stream.pageToken) world = _ :=
        BulkSource.fetch_latest isOpen
      rwa [turns.settled] at fetched
  | stale stale =>
      refine BulkSource.fetch_stale ?_
      simpa [LiveSource.settled, Option.map_map, Function.comp_def, LiveStream.settled,
        FileStream.pageToken, LiveStream.pageToken] using stale

end LiveSource

end RemoteQuery
