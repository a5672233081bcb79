import Cadence.Driver.Turn

/-!
Delivery.  It takes all messages posted so far and handles them in the order of
their posting; what a callback posts waits for the next delivery.  Whether a
message starts its callback is decided when its turn comes.
-/

namespace Cadence.Mailbox

open Exec

def modify (number : Nat) (change : Mailbox → Mailbox) : Exec Unit :=
  update fun rig => { rig with mailboxes := rig.mailboxes.modify number change }

/-- Draws a tag that has never been used and registers a callback under it; in a
mailbox that does not exist nothing is registered. -/
def enter (number : Nat) (callback : Callback) : Exec Tag := do
  let tag : Tag := ⟨← look (·.nextTag)⟩
  update fun rig =>
    { rig with
      nextTag := rig.nextTag + 1
      mailboxes := rig.mailboxes.modify number (·.register tag callback) }
  if number < (← look (·.mailboxes.size)) then
    record (.registered number tag)
    log [registeredNotice tag]
  return tag

/-- Posts a message for a tag, if there is such a mailbox. -/
def send (number : Nat) (tag : Tag) : Exec Unit := do
  if number < (← look (·.mailboxes.size)) then
    let message : Message := ⟨← look (·.nextMessage), tag⟩
    update fun rig =>
      { rig with
        nextMessage := rig.nextMessage + 1
        mailboxes := rig.mailboxes.modify number (·.post message) }
    record (.posted number message)

/-- Removes a registration and answers whether there was one. -/
def withdraw (number : Nat) (tag : Tag) : Exec Bool := do
  let found ← look fun rig => (rig.mailbox number).isRegistered tag
  modify number (·.cancel tag)
  if found then
    record (.cancelled number tag)
    log [cancelledNotice tag]
  return found

def start : Callback → Exec Unit
  | .routine routine => callQuietly routine .plain
  | .step driver generation => Driver.deliverStep driver generation

def markOnRig (number : Nat) (tag : Tag) (executing : Bool) (rig : Rig) : Rig :=
  { rig with mailboxes := rig.mailboxes.modify number (·.mark tag executing) }

/-- Handles one message and answers whether it started its callback. -/
def handle (number : Nat) (message : Message) : Exec Bool := do
  match ← look fun rig => (rig.mailbox number).find? message.tag with
  | none =>
      record (.undeliverable number message)
      log [droppedNotice message.tag]
      return false
  | some entry =>
      if entry.executing then
        record (.reentrant number message)
        log [reenteredNotice message.tag]
        return false
      record (.delivered number message)
      within (.callback message.tag) (markOnRig number message.tag)
        (start entry.callback)
      return true

/-- Handles messages one after the other, on top of `fired` callbacks started
already. -/
def handleAll (number : Nat) : List Message → Nat → Exec Nat
  | [], fired => return fired
  | message :: rest, fired => do
      let started ← handle number message
      handleAll number rest (if started then fired + 1 else fired)

/-- Delivers everything posted so far and answers how many callbacks it
started. -/
def deliver (number : Nat) : Exec Nat := do
  let messages ← look fun rig => (rig.mailbox number).queue
  modify number ({ · with queue := [] })
  record (.deliveryOpened number messages)
  handleAll number messages 0

def perform : (order : MailOrder) → Exec order.Answer
  | .newMailbox => do
      let number ← look (·.mailboxes.size)
      update fun rig => { rig with mailboxes := rig.mailboxes.push .empty }
      return number
  | .register number routine => enter number (.routine routine)
  | .post number tag => send number tag
  | .cancel number tag => withdraw number tag
  | .isRegistered number tag => look fun rig => (rig.mailbox number).isRegistered tag
  | .pending number => look fun rig => (rig.mailbox number).queue.length
  | .deliver number => deliver number
  | .describe number => look fun rig => (rig.mailbox number).describe

end Cadence.Mailbox
