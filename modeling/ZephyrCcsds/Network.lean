import ZephyrCcsds.Runs

/-! # Two parties over an unreliable network

Two parties of one kind send each other messages.  The network may lose, repeat, delay and reorder what is sent: at
each of its steps a party hears nothing, or some message that its peer has sent at any time before.

* `Network.Step` — one step of either party.
* `Network.Agrees` — an invariant of each party towards its peer, and what every message that was sent says.
* `Network.agrees_of_run` — the assume-guarantee rule: it is enough to look at one step of one party, which may
  assume that what it hears is true and has to leave true what was said before.
* `Network.run_carried` — a network whose messages carry those of another one has only runs of that one.
-/

namespace ZephyrCcsds

/-- Two parties, and all the messages that each of them has sent -/
structure Network (P M : Type) where
  left : P
  right : P
  fromLeft : List M
  fromRight : List M
  deriving DecidableEq, Repr

namespace Network

variable {P L M : Type}

/-- A step of one party, which hears at most one message of its peer. -/
inductive Step (move : P → L → P → Prop) (heard : L → Option M) (said : L → List M) :
    Network P M → L → Network P M → Prop where
  | left {net : Network P M} {label : L} {left' : P} : move net.left label left' →
      (∀ message, heard label = some message → message ∈ net.fromRight) →
      Step move heard said net label { net with left := left', fromLeft := net.fromLeft ++ said label }
  | right {net : Network P M} {label : L} {right' : P} : move net.right label right' →
      (∀ message, heard label = some message → message ∈ net.fromLeft) →
      Step move heard said net label { net with right := right', fromRight := net.fromRight ++ said label }

/-- Each party stands as it should towards the other, and nothing that was said is false. -/
structure Agrees (stands : P → P → Prop) (means : P → P → M → Prop) (net : Network P M) : Prop where
  left : stands net.left net.right
  right : stands net.right net.left
  fromLeft : ∀ message ∈ net.fromLeft, means net.left net.right message
  fromRight : ∀ message ∈ net.fromRight, means net.right net.left message

/-- What one step of a party keeps, when what it hears is true -/
structure Kept (stands : P → P → Prop) (means : P → P → M → Prop) (own peer : P) (spoken : List M) (own' : P) :
    Prop where
  onward : stands own' peer
  back : stands peer own'
  spoken : ∀ message ∈ spoken, means own' peer message
  earlier : ∀ message, means own peer message → means own' peer message
  answers : ∀ message, means peer own message → means peer own' message

variable {move : P → L → P → Prop} {heard : L → Option M} {said : L → List M} {stands : P → P → Prop}
  {means : P → P → M → Prop} {net net' : Network P M}

theorem Agrees.step
    (keeps : ∀ own peer label own', stands own peer → stands peer own →
      (∀ message, heard label = some message → means peer own message) → move own label own' →
      Kept stands means own peer (said label) own')
    {label : L} (agrees : Agrees stands means net) (step : Step move heard said net label net') :
    Agrees stands means net' := by
  have spoken : ∀ {own peer own' : P} {earlier later : List M}, Kept stands means own peer later own' →
      (∀ message ∈ earlier, means own peer message) → ∀ message ∈ earlier ++ later, means own' peer message := by
    intro own peer own' earlier later kept all message mem
    rcases List.mem_append.mp mem with before | now
    · exact kept.earlier message (all message before)
    · exact kept.spoken message now
  cases step with
  | left moved mem =>
    have kept := keeps _ _ _ _ agrees.left agrees.right
      (fun message hears => agrees.fromRight message (mem message hears)) moved
    exact ⟨kept.onward, kept.back, spoken kept agrees.fromLeft,
      fun message mem => kept.answers message (agrees.fromRight message mem)⟩
  | right moved mem =>
    have kept := keeps _ _ _ _ agrees.right agrees.left
      (fun message hears => agrees.fromLeft message (mem message hears)) moved
    exact ⟨kept.back, kept.onward, fun message mem => kept.answers message (agrees.fromLeft message mem),
      spoken kept agrees.fromRight⟩

/-- If one step of one party keeps the agreement, every run does. -/
theorem agrees_of_run
    (keeps : ∀ own peer label own', stands own peer → stands peer own →
      (∀ message, heard label = some message → means peer own message) → move own label own' →
      Kept stands means own peer (said label) own')
    {labels : List L} (start : Agrees stands means net) (run : Run (Step move heard said) net labels net') :
    Agrees stands means net' :=
  run.invariant (fun _ _ _ agrees step => agrees.step keeps step) start

/-! ## Messages that carry messages -/

/-- A network stands for another one, whose messages its own carry. -/
structure Carried {P' M' : Type} (stands : P' → P → Prop) (carries : M' → M → Prop) (net' : Network P' M')
    (net : Network P M) : Prop where
  left : stands net'.left net.left
  right : stands net'.right net.right
  fromLeft : ∀ message' ∈ net'.fromLeft, ∀ message, carries message' message → message ∈ net.fromLeft
  fromRight : ∀ message' ∈ net'.fromRight, ∀ message, carries message' message → message ∈ net.fromRight

/-- What one step of a party comes to: a step of the party it stands for, or none -/
inductive Carries {P' L' M' : Type} (stands : P' → P → Prop) (carries : M' → M → Prop) (move : P → L → P → Prop)
    (heard : L → Option M) (said : L → List M) (heard' : L' → Option M') (said' : L' → List M') (own : P) (label' : L')
    (after' : P') : Prop where
  | still : stands after' own → (∀ message' ∈ said' label', ∀ message, ¬ carries message' message) →
      Carries stands carries move heard said heard' said' own label' after'
  | moves {label : L} {after : P} : move own label after → stands after' after →
      (∀ message, heard label = some message → ∃ message', heard' label' = some message' ∧ carries message' message) →
      (∀ message' ∈ said' label', ∀ message, carries message' message → message ∈ said label) →
      Carries stands carries move heard said heard' said' own label' after'

section Carrying

variable {P' L' M' : Type} {move' : P' → L' → P' → Prop} {heard' : L' → Option M'} {said' : L' → List M'}
  {stands : P' → P → Prop} {carries : M' → M → Prop} {start' final' : Network P' M'} {start : Network P M}

/-- What is said goes on to carry what is said. -/
theorem carried_append {earlier' later' : List M'} {earlier later : List M}
    (before : ∀ message' ∈ earlier', ∀ message, carries message' message → message ∈ earlier)
    (now : ∀ message' ∈ later', ∀ message, carries message' message → message ∈ later) :
    ∀ message' ∈ earlier' ++ later', ∀ message, carries message' message → message ∈ earlier ++ later := by
  intro message' mem message carried
  rcases List.mem_append.mp mem with front | back
  · exact List.mem_append_left _ (before message' front message carried)
  · exact List.mem_append_right _ (now message' back message carried)

theorem carried_silent {earlier' later' : List M'} {earlier : List M}
    (before : ∀ message' ∈ earlier', ∀ message, carries message' message → message ∈ earlier)
    (silent : ∀ message' ∈ later', ∀ message, ¬ carries message' message) :
    ∀ message' ∈ earlier' ++ later', ∀ message, carries message' message → message ∈ earlier := by
  intro message' mem message carried
  rcases List.mem_append.mp mem with front | back
  · exact before message' front message carried
  · exact (silent message' back message carried).elim

theorem Carried.step
    (simulates : ∀ own' label' after' own, stands own' own → move' own' label' after' →
      Carries stands carries move heard said heard' said' own label' after')
    {label' : L'} (carried : Carried stands carries start' start) (step : Step move' heard' said' start' label' final') :
    ∃ labels final, Run (Step move heard said) start labels final ∧ Carried stands carries final' final := by
  cases step with
  | left moved mem =>
    cases simulates _ _ _ _ carried.left moved with
    | still same silent =>
      exact ⟨[], start, .done, same, carried.right, carried_silent carried.fromLeft silent, carried.fromRight⟩
    | @moves label after moves same hears tells =>
      refine ⟨[label], { start with left := after, fromLeft := start.fromLeft ++ said label }, .single (.left moves ?_),
        same, carried.right, carried_append carried.fromLeft tells, carried.fromRight⟩
      intro message hearing
      obtain ⟨message', heard, within⟩ := hears message hearing
      exact carried.fromRight message' (mem message' heard) message within
  | right moved mem =>
    cases simulates _ _ _ _ carried.right moved with
    | still same silent =>
      exact ⟨[], start, .done, carried.left, same, carried.fromLeft, carried_silent carried.fromRight silent⟩
    | @moves label after moves same hears tells =>
      refine ⟨[label], { start with right := after, fromRight := start.fromRight ++ said label },
        .single (.right moves ?_), carried.left, same, carried.fromLeft, carried_append carried.fromRight tells⟩
      intro message hearing
      obtain ⟨message', heard, within⟩ := hears message hearing
      exact carried.fromLeft message' (mem message' heard) message within

/-- A run of the network that carries is a run of the network that is carried. -/
theorem run_carried
    (simulates : ∀ own' label' after' own, stands own' own → move' own' label' after' →
      Carries stands carries move heard said heard' said' own label' after')
    {labels' : List L'} (carried : Carried stands carries start' start)
    (run : Run (Step move' heard' said') start' labels' final') :
    ∃ labels final, Run (Step move heard said) start labels final ∧ Carried stands carries final' final := by
  induction run generalizing start with
  | done => exact ⟨[], start, .done, carried⟩
  | step first _ ih =>
    obtain ⟨labels₁, between, run₁, carried₁⟩ := carried.step simulates first
    obtain ⟨labels₂, final, run₂, carried₂⟩ := ih carried₁
    exact ⟨labels₁ ++ labels₂, final, run₁.append run₂, carried₂⟩

end Carrying

end Network

end ZephyrCcsds
