import Cadence.Controls.Apply
import Cadence.Refresh.Loop
import Cadence.Rig.Bench

/-!
Carrying orders out.  Scripts give orders, and an order that is carried out may
hand the rig over to scripts; the two are tied together with a bound on how deep
they nest.
-/

namespace Cadence

open Exec

namespace Driver

def perform : (order : DriverOrder) → Exec order.Answer
  | .newEmulator machine =>
      update fun rig =>
        { rig with emulators := rig.emulators.push ⟨machine, false, false⟩ }
  | .hold emulator => Emulator.hold emulator
  | .newDriver emulator display options timebase =>
      create emulator display options timebase
  | .turn number measuredRate => turnByHand number measuredRate
  | .step number => stepByHand number
  | .report number => look fun rig => report (rig.driver number)
  | .start number => start number
  | .registerStep number mailbox => do
      let driver ← look (·.driver number)
      if !driver.handle then return none
      some <$> Mailbox.enter mailbox (.step number driver.generation)
  | .dropHandle number => dropHandle number
  | .shown number => look fun rig => shown (rig.driver number)

end Driver

/-- Carries an order out, where `limit` bounds the turns of an event loop. -/
def Order.carryOut (limit : Nat) : (order : Order) → Exec order.Answer
  | .clock order => RateMeter.perform order
  | .pace order => Pace.perform order
  | .mail order => Mailbox.perform order
  | .refresh order => Refresher.perform order
  | .debounce order => Debounced.perform order
  | .driver order => Driver.perform order
  | .loop order => Loop.perform limit order
  | .control order => Controls.perform order
  | .note datum => record (.noted datum)

/-- A rig with one more routine. -/
def Rig.enroll (rig : Rig) (course : Course) : Rig :=
  { rig with routines := rig.routines.push ⟨course, 0⟩ }

/-- Runs a script, where `perform` carries its orders out. -/
def Script.playWith
    (perform : (order : Order) → Rig → Ending order.Answer × Rig) : Play
  | .done answer, rig => (.value (.ok answer), rig)
  | .fail failure, rig => (.value (.error failure), rig)
  | .panic cause, rig => (.panicked cause, rig)
  | .order asked next, rig =>
      match perform asked rig with
      | (.value answer, rig) => (next answer).playWith perform rig
      | (.panicked cause, rig) => (.panicked cause, rig)
      | (.exhausted, rig) => (.exhausted, rig)
  | .routine course next, rig =>
      (next rig.routines.size).playWith perform (rig.enroll course)

/-- Carries an order out with at most `depth` levels of orders inside orders. -/
def Order.perform : Nat → (order : Order) → Rig → Ending order.Answer × Rig
  | 0, _, rig => (.exhausted, rig)
  | depth + 1, order, rig =>
      (order.carryOut (depth + 1) rig).run (Script.playWith (Order.perform depth))

/-- Runs a script whose orders nest at most `depth` levels deep. -/
def Script.playWithin (depth : Nat) : Play := Script.playWith (Order.perform depth)

/-- How deep orders may nest, and how many turns an event loop may take. -/
def Order.depthLimit : Nat := 100000

def Script.play : Play := Script.playWithin Order.depthLimit

end Cadence
