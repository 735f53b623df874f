import DrumMachine.Kit.Basic

/-! # Rehearsals

A rehearsal is a kit at work: a tablature is read for it and shown, a player plays it, single steps
are put together and struck, and playback is cancelled by hand or after a number of strikes. Every
command gives a reply and the state after it.

Cancellation goes through tokens. A player holds the token it was made with; the rehearsal has a
current token, which need not be the same. A cancelled token stays cancelled. -/

namespace DrumMachine

/-- A token of cancellation, by its number. -/
abbrev Token := Nat

/-- **A player**: its tempo, whether it repeats, and the token that stops it. -/
structure Player where
  clock : StepClock
  repeats : Bool
  token : Token

/-- **The state of a rehearsal.** -/
structure Rehearsal where
  kit : Kit
  outlet : Outlet
  tab : Option Tablature := none
  player : Option Player := none
  /-- The current token. -/
  token : Token := 0
  /-- How many tokens there are. -/
  tokens : Nat := 1
  cancelled : List Token := []
  /-- Strikes until the current token is cancelled; zero if it is not going to be. -/
  countdown : Nat := 0
  /-- Steps put together by hand. -/
  loose : List Step := []

namespace Rehearsal

/-- **What can be asked of a rehearsal.** -/
inductive Command where
  /-- Reads a tablature. -/
  | read (source : Source)
  /-- Shows the tablature. -/
  | showTab
  /-- Makes a player, with a token of its own or with the current one. -/
  | makePlayer (bpm : UInt32) (repeats keepToken : Bool)
  /-- Cancels the current token after so many strikes. -/
  | stopAfter (strikes : Nat)
  | cancel
  | askCancelled
  /-- Makes a new current token. -/
  | newToken
  /-- Plays the tablature with the player. -/
  | play
  /-- Plays the tablature with a player made for it. -/
  | playAt (bpm : UInt32) (repeats : Bool)
  /-- Tells the kit that a pass was broken off. -/
  | interruptPass
  | knows (name : String)
  | newStep
  | addDrum (step : Nat) (name : String)
  | strikeStep (step : Nat) (last : Bool)
  /-- Starts a voice a number of times. -/
  | trigger (frames : List Float32) (times : Nat)
  | render (buffer : List Float32) (channels : Nat)

/-- **Why a command cannot be carried out.** -/
inductive Refused where
  | noPlayerOrTablature
  | noTablature
  | noSuchStep
  | noMixer
  | endless
  deriving DecidableEq, Repr

/-- The text of a refusal. -/
def Refused.message : Refused → String
  | noPlayerOrTablature => "no player or tablature"
  | noTablature => "no tablature"
  | noSuchStep => "no such step"
  | noMixer => "no mixer"
  | endless => "would never end"

/-- **What a rehearsal replies.** -/
inductive Reply where
  | done
  | refused (reason : Refused)
  | tablature (tab : Tablature)
  | unread (error : Tablature.ReadError)
  | player (period : Duration)
  | badTempo (error : TempoError)
  | cancelled (flag : Bool)
  | played (report : Report)
  | knows (flag : Bool)
  | madeStep (index : Nat)
  | step (listing : Text.Listing)
  | voices (count : Nat)
  | rendered (buffer : List Float32)

/-- A rehearsal with a kit that acts on an outlet. -/
def new (kit : Kit) (outlet : Outlet) : Rehearsal := { kit, outlet }

/-- Whether a token is cancelled. -/
def isCancelled (token : Token) (r : Rehearsal) : Bool := r.cancelled.contains token

/-- Cancels the current token. -/
def cancelCurrent (r : Rehearsal) : Rehearsal := { r with cancelled := r.token :: r.cancelled }

/-- **Strikes a step** and counts down: the strike that ends the countdown cancels the current
token. -/
def strike (step : Step) (last : Bool) (r : Rehearsal) : Rehearsal :=
  let r := { r with outlet := r.kit.strike step last r.outlet }
  match r.countdown with
  | 0 => r
  | 1 => { r with countdown := 0 }.cancelCurrent
  | n + 1 => { r with countdown := n }

/-- The stage of a player that holds `token`. -/
def stage (token : Token) : Stage Rehearsal where
  check r := (r.isCancelled token, r)
  strike := strike

/-- Whether a player that holds `token` would never stop. -/
def isEndless (token : Token) (repeats : Bool) (r : Rehearsal) : Bool :=
  repeats && !r.isCancelled token && (r.countdown == 0 || token != r.token)

/-- Plays a tablature with a player that holds `token`. -/
def playWith (token : Token) (repeats : Bool) (tab : Tablature) (r : Rehearsal) :
    Reply × Rehearsal :=
  if r.isEndless token repeats then (.refused .endless, r)
  else
    match Playback.play (stage token) tab repeats (r.countdown + 1) r with
    | none => (.refused .endless, r)
    | some (report, r) => (.played report, r)

/-- **Carries out a command.** -/
def run (command : Command) (r : Rehearsal) : Reply × Rehearsal :=
  match command with
  | .read source =>
    match r.kit.read source with
    | .error e => (.unread e, r)
    | .ok tab => (.tablature tab, { r with tab := some tab })
  | .showTab =>
    match r.tab with
    | none => (.refused .noTablature, r)
    | some tab => (.tablature tab, r)
  | .makePlayer bpm repeats keepToken =>
    match StepClock.new? bpm with
    | .error e => (.badTempo e, r)
    | .ok clock =>
      if keepToken then
        (.player clock.period, { r with player := some ⟨clock, repeats, r.token⟩ })
      else
        (.player clock.period,
          { r with
            player := some ⟨clock, repeats, r.tokens⟩, token := r.tokens, tokens := r.tokens + 1 })
  | .stopAfter strikes => (.done, { r with countdown := strikes })
  | .cancel => (.done, r.cancelCurrent)
  | .askCancelled => (.cancelled (r.isCancelled r.token), r)
  | .newToken => (.done, { r with token := r.tokens, tokens := r.tokens + 1 })
  | .play =>
    match r.player, r.tab with
    | some player, some tab => r.playWith player.token player.repeats tab
    | _, _ => (.refused .noPlayerOrTablature, r)
  | .playAt bpm repeats =>
    match r.tab with
    | none => (.refused .noTablature, r)
    | some tab =>
      match StepClock.new? bpm with
      | .error e => (.badTempo e, r)
      -- the player's token is not the current one, so nothing can cancel it
      | .ok _ => { r with tokens := r.tokens + 1 }.playWith r.tokens repeats tab
  | .interruptPass => (.done, { r with outlet := r.kit.passInterrupted r.outlet })
  | .knows name => (.knows (r.kit.knows name), r)
  | .newStep => (.madeStep r.loose.length, { r with loose := r.loose ++ [[]] })
  | .addDrum index name =>
    match r.loose[index]? with
    | none => (.refused .noSuchStep, r)
    | some step =>
      let step := step ++ [name]
      (.step (r.kit.listing step), { r with loose := r.loose.set index step })
  | .strikeStep index last =>
    match r.loose[index]? with
    | none => (.refused .noSuchStep, r)
    | some step => (.step (r.kit.listing step), r.strike step last)
  | .trigger frames times =>
    match r.kit with
    | .sampled _ =>
      let mixer := times.fold (fun _ _ mixer => mixer.trigger frames) r.outlet.mixer
      (.voices mixer.activeVoices, { r with outlet := { r.outlet with mixer } })
    | _ => (.refused .noMixer, r)
  | .render buffer channels =>
    match r.kit with
    | .sampled _ =>
      match r.outlet.mixer.render buffer channels with
      | (buffer, mixer) => (.rendered buffer, { r with outlet := { r.outlet with mixer } })
    | _ => (.refused .noMixer, r)

end Rehearsal

end DrumMachine
