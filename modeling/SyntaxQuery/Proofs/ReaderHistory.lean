import SyntaxQuery.Proofs.StreamSchedule

/-! What is known of a stream reader from its history. The history alone tells when a seek is due and
which failure is kept; the script of the stream then tells what the next request brings. -/
namespace SyntaxQuery

inductive ReaderAction where
  | request (request : Request)
  | takeError

inductive ReaderEvent where
  | served (request : Request) (result : Except StreamFault Bytes)
  | taken (error : Option StreamFault)

namespace ReaderEvent

@[simp] def served? : ReaderEvent → Option (Request × Except StreamFault Bytes)
  | served request result => some (request, result)
  | taken _ => none

@[simp] def failure? : ReaderEvent → Option StreamFault
  | served _ (.error fault) => some fault
  | _ => none

@[simp] def isTaken : ReaderEvent → Bool
  | taken _ => true
  | served .. => false

end ReaderEvent

abbrev ReaderHistory := List ReaderEvent

namespace ReaderHistory

def previous (events : ReaderHistory) : Option (Request × Except StreamFault Bytes) :=
  (events.filterMap ReaderEvent.served?).getLast?

/-- Where the data of the latest request ended; nothing is known before the first request and after
a failed one. -/
def ended (events : ReaderHistory) : Option Offset :=
  match previous events with
  | some (request, .ok bytes) => some (request.offset.advance bytes.length)
  | _ => none

/-- The first request seeks, and so does one behind a failed request or away from where the data of
the request before it ended. -/
def seekDue (events : ReaderHistory) (offset : Offset) : Bool :=
  match previous events with
  | none => true
  | some (_, .error _) => true
  | some (request, .ok bytes) => request.offset.advance bytes.length != offset

/-- The latest failure since an error was last taken. -/
def pending (events : ReaderHistory) : Option StreamFault :=
  (events.reverse.takeWhile (!·.isTaken)).findSome? ReaderEvent.failure?

@[simp] theorem ended_served (events : ReaderHistory) (request : Request)
    (result : Except StreamFault Bytes) :
    ended (events ++ [.served request result]) =
      match result with
      | .ok bytes => some (request.offset.advance bytes.length)
      | .error _ => none := by
  cases result <;> simp [ended, previous]

@[simp] theorem ended_taken (events : ReaderHistory) (error : Option StreamFault) :
    ended (events ++ [.taken error]) = ended events := by
  simp [ended, previous]

theorem seekDue_iff (events : ReaderHistory) (offset : Offset) :
    seekDue events offset = true ↔ ended events ≠ some offset := by
  unfold seekDue ended
  rcases previous events with _ | ⟨request, _ | bytes⟩ <;> simp

@[simp] theorem pending_served (events : ReaderHistory) (request : Request)
    (result : Except StreamFault Bytes) :
    pending (events ++ [.served request result]) =
      match result with
      | .ok _ => pending events
      | .error fault => some fault := by
  cases result <;> simp [pending, List.findSome?_cons]

@[simp] theorem pending_taken (events : ReaderHistory) (error : Option StreamFault) :
    pending (events ++ [.taken error]) = none := by
  simp [pending]

end ReaderHistory

def Stream.astray? (stream : Stream) (sought : Bool) : Option StreamFault :=
  if sought then stream.seekFault? else none

/-- The outcome of a request: the seek may fail, and otherwise the read decides, at the offset that
was asked for. -/
def Stream.outcome (stream : Stream) (sought : Bool) (offset : Offset) (count : Nat) :
    Except StreamFault Bytes :=
  match stream.astray? sought with
  | some fault => .error fault
  | none => stream.readRule.outcome stream.content offset count

theorem Stream.outcome_ok {stream : Stream} (result : stream.outcome sought offset count = .ok bytes) :
    bytes <+: stream.content.drop offset.toNat ∧ bytes.length ≤ count := by
  unfold outcome at result
  split at result
  · cases result
  · exact ReadRule.outcome_ok result

/-- Only a seek can end in an interruption. -/
theorem Stream.outcome_interrupted {stream : Stream}
    (result : stream.outcome sought offset count = .error .interrupted) :
    sought = true ∧ stream.seekFault? = some .interrupted := by
  unfold outcome at result
  split at result
  next fault failed =>
    obtain rfl := Except.error.inj result
    cases sought with
    | false => cases failed
    | true => exact ⟨rfl, failed⟩
  next =>
    cases rule : stream.readRule with
    | full => simp [rule, ReadRule.outcome] at result
    | atMost => simp [rule, ReadRule.outcome] at result
    | fault failure =>
      obtain rfl : failure = .interrupted := by simpa [rule, ReadRule.outcome] using result
      exact absurd rule stream.readRule_settled

namespace StreamReader

def perform (reader : StreamReader) : ReaderAction → ReaderEvent × StreamReader
  | .request request =>
    (.served request (reader.readAt request.offset).1, (reader.serve request).2)
  | .takeError => (.taken reader.takeError.1, reader.takeError.2)

def run (reader : StreamReader) : List ReaderAction → ReaderHistory × StreamReader
  | [] => ([], reader)
  | action :: rest =>
    let (event, moved) := reader.perform action
    let (events, final) := moved.run rest
    (event :: events, final)

/-- What one request gives and leaves behind, once it is known whether it seeks. -/
structure Answers (reader : StreamReader) (sought : Bool) (request : Request) : Prop where
  result : (reader.readAt request.offset).1 =
    reader.stream.outcome sought request.offset reader.chunkSize
  chunk : (reader.serve request).1 =
    match reader.stream.outcome sought request.offset reader.chunkSize with
    | .ok bytes => bytes
    | .error _ => []
  cursor : (reader.serve request).2.cursor =
    match reader.stream.outcome sought request.offset reader.chunkSize with
    | .ok bytes => some (request.offset.advance bytes.length)
    | .error _ => none
  position : ∀ bytes, reader.stream.outcome sought request.offset reader.chunkSize = .ok bytes →
    (reader.serve request).2.stream.position = request.offset.advance bytes.length
  error : (reader.serve request).2.error =
    match reader.stream.outcome sought request.offset reader.chunkSize with
    | .ok _ => reader.error
    | .error fault => some fault
  seekLog : (reader.serve request).2.stream.seekLog =
    reader.stream.seekLog ++ if sought then [request.offset] else []
  seeks : (reader.serve request).2.stream.seeks =
    if sought then reader.stream.seeks.tail else reader.stream.seeks
  /-- A request that is kept from its read leaves the script of the reads alone. -/
  reads : (reader.serve request).2.stream.reads =
    if (reader.stream.astray? sought).isSome then reader.stream.reads
    else reader.stream.settled.tail
  content : (reader.serve request).2.stream.content = reader.stream.content
  chunkSize : (reader.serve request).2.chunkSize = reader.chunkSize

def Placed (reader : StreamReader) : Prop :=
  ∀ place, reader.cursor = some place → reader.stream.position = place

theorem Answers.placed (answers : Answers reader sought request) :
    (reader.serve request).2.Placed := by
  intro place known
  rw [answers.cursor] at known
  split at known
  next bytes came =>
    rw [← Option.some.inj known]
    exact answers.position bytes came
  next => cases known

theorem Answers.mem_seeks (answers : Answers reader sought request)
    (member : rule ∈ (reader.serve request).2.stream.seeks) : rule ∈ reader.stream.seeks := by
  rw [answers.seeks] at member
  split at member
  · exact List.mem_of_mem_tail member
  · exact member

theorem Answers.mem_reads (answers : Answers reader sought request)
    (member : rule ∈ (reader.serve request).2.stream.reads) : rule ∈ reader.stream.reads := by
  rw [answers.reads] at member
  split at member
  · exact member
  · exact Stream.mem_settled (List.mem_of_mem_tail member)

/-- The read of a request, from a stream that was brought to the requested offset. -/
theorem serve_reached {reader reached : StreamReader} {request : Request} {sought : Bool}
    (reach : reader.reach request.offset = (.ok (), reached))
    (straight : reader.stream.astray? sought = none)
    (standing : reached.stream = { reader.stream with
      seeks := if sought then reader.stream.seeks.tail else reader.stream.seeks
      seekLog := reader.stream.seekLog ++ if sought then [request.offset] else []
      position := request.offset })
    (chunkSize : reached.chunkSize = reader.chunkSize) (error : reached.error = reader.error) :
    Answers reader sought request := by
  have outcome : reader.stream.outcome sought request.offset reader.chunkSize =
      reached.stream.readRule.outcome reached.stream.content reached.stream.position
        reached.chunkSize := by
    rw [Stream.outcome, straight, chunkSize, standing]
    rfl
  have run := Stream.readRetrying_eq reached.stream reached.chunkSize
  rw [← outcome] at run
  cases came : reader.stream.outcome sought request.offset reader.chunkSize with
  | error fault =>
    rw [came] at run
    have read : reader.readAt request.offset = (.error fault,
        { reached with stream := reached.stream.fetched (.error fault) }) := by
      rw [readAt, reach]
      simp only [run]
    constructor <;> simp [serve, read, came, fail, straight, standing, chunkSize, Stream.fetched,
        Stream.settled]
  | ok bytes =>
    rw [came] at run
    have read : reader.readAt request.offset = (.ok bytes,
        { reached with
          stream := reached.stream.fetched (.ok bytes)
          cursor := some (request.offset.advance bytes.length) }) := by
      rw [readAt, reach]
      simp only [run]
    constructor <;>
      simp [serve, read, came, straight, standing, chunkSize, error, Stream.fetched,
        Stream.settled, Stream.moved]

theorem serve_answers {reader : StreamReader} (placed : reader.Placed) (request : Request) :
    Answers reader (reader.cursor ≠ some request.offset) request := by
  by_cases there : reader.cursor = some request.offset
  · have reached : reader.reach request.offset = (.ok (), reader) := by simp [reach, there]
    refine serve_reached reached ?_ ?_ rfl rfl
    · simp [Stream.astray?, there]
    · simp [there, ← placed _ there]
  · cases failed : reader.stream.seekFault? with
    | some fault =>
      have astray : reader.stream.astray? true = some fault := failed
      have away : reader.reach request.offset = (.error fault,
          { reader with stream := reader.stream.noted request.offset, cursor := none }) := by
        simp [reach, there, Stream.seek_eq, failed]
      constructor <;>
        simp [readAt, serve, away, there, Stream.outcome, astray, fail, Stream.noted]
    | none =>
      have reached : reader.reach request.offset = (.ok (), { reader with
          stream := { reader.stream.noted request.offset with position := request.offset }
          cursor := none }) := by
        simp [reach, there, Stream.seek_eq, failed]
      refine serve_reached reached ?_ ?_ rfl rfl
      · simpa [Stream.astray?, there] using failed
      · simp [there, Stream.noted]

structure Tracks (text : Bytes) (size : Nat) (history : ReaderHistory)
    (reader : StreamReader) : Prop where
  content : reader.stream.content = text
  chunkSize : reader.chunkSize = size
  placed : reader.Placed
  cursor : reader.cursor = history.ended
  error : reader.error = history.pending
  delivered : ∀ request bytes, .served request (.ok bytes) ∈ history →
    bytes <+: text.drop request.offset.toNat ∧ bytes.length ≤ size

theorem Tracks.seekDue (tracks : Tracks text size history reader) (offset : Offset) :
    history.seekDue offset = decide (reader.cursor ≠ some offset) := by
  rw [tracks.cursor, Bool.eq_iff_iff, decide_eq_true_iff]
  exact ReaderHistory.seekDue_iff history offset

theorem Tracks.answers (tracks : Tracks text size history reader) (request : Request) :
    Answers reader (history.seekDue request.offset) request :=
  tracks.seekDue request.offset ▸ serve_answers tracks.placed request

/-- Data ends within the content, so the word in which its end is kept does not saturate. -/
theorem Tracks.unsaturated (tracks : Tracks text size history reader)
    (short : text.length < UInt64.size) (request : Request) (bytes : Bytes)
    (served : .served request (.ok bytes) ∈ history) :
    (request.offset.advance bytes.length).toNat = request.offset.toNat + bytes.length := by
  have fits := (tracks.delivered request bytes served).1.length_le
  have word := request.offset.toNat_lt
  rw [List.length_drop] at fits
  rw [UInt64.size] at short
  rw [Offset.toNat_advance, UInt64.size]
  omega

theorem start_tracks (stream : Stream) (chunkSize : Nat) :
    Tracks stream.content (max chunkSize 1) [] (withChunkSize stream chunkSize) where
  content := rfl
  chunkSize := rfl
  placed := fun _ known => nomatch known
  cursor := rfl
  error := rfl
  delivered := fun _ _ served => nomatch served

theorem perform_tracks (tracks : Tracks text size history reader) (action : ReaderAction) :
    Tracks text size (history ++ [(reader.perform action).1]) (reader.perform action).2 := by
  cases action with
  | takeError =>
    exact {
      content := tracks.content
      chunkSize := tracks.chunkSize
      placed := tracks.placed
      cursor := by simpa [perform, takeError] using tracks.cursor
      error := by simp [perform, takeError]
      delivered := fun request bytes served =>
        tracks.delivered request bytes (by simpa [perform] using served) }
  | request request =>
    have answers := tracks.answers request
    refine ⟨answers.content.trans tracks.content, answers.chunkSize.trans tracks.chunkSize,
      ?placed, ?cursor, ?error, ?delivered⟩
    case placed => exact answers.placed
    case cursor =>
      rw [perform, answers.cursor, ReaderHistory.ended_served, answers.result]
    case error =>
      rw [perform, answers.error, ReaderHistory.pending_served, answers.result, tracks.error]
    case delivered =>
      intro earlier bytes served
      rcases List.mem_append.mp served with served | served
      · exact tracks.delivered earlier bytes served
      · obtain ⟨rfl, came⟩ := ReaderEvent.served.inj (List.mem_singleton.mp served)
        rw [answers.result] at came
        have fits := Stream.outcome_ok came.symm
        rwa [tracks.content, tracks.chunkSize] at fits

theorem run_tracks (tracks : Tracks text size history reader) (actions : List ReaderAction) :
    Tracks text size (history ++ (reader.run actions).1) (reader.run actions).2 := by
  induction actions generalizing history reader with
  | nil => simpa [run] using tracks
  | cons action rest ih =>
    have later := ih (perform_tracks tracks action)
    rwa [List.append_assoc] at later

/-- After any requests and taken errors, whatever the stream's script, the history accounts for the
reader and for its answer to any further request. -/
theorem run_history (stream : Stream) (chunkSize : Nat) (actions : List ReaderAction) :
    let (history, reader) := (withChunkSize stream chunkSize).run actions
    Tracks stream.content (max chunkSize 1) history reader ∧
    reader.takeError.1 = history.pending ∧
    (∀ request : Request, Answers reader (history.seekDue request.offset) request) ∧
    (∀ request : Request,
      reader.stream.outcome (history.seekDue request.offset) request.offset reader.chunkSize =
        .error .interrupted →
      history.seekDue request.offset = true ∧ reader.stream.seekFault? = some .interrupted) ∧
    (stream.content.length < UInt64.size → ∀ (request : Request) (bytes : Bytes),
      .served request (.ok bytes) ∈ history →
      (request.offset.advance bytes.length).toNat = request.offset.toNat + bytes.length) := by
  have tracks := run_tracks (start_tracks stream chunkSize) actions
  rw [List.nil_append] at tracks
  exact ⟨tracks, tracks.error, tracks.answers, fun _ => Stream.outcome_interrupted,
    tracks.unsaturated⟩

end StreamReader

end SyntaxQuery
