import Mathlib.Data.List.Induction
import SpriteMachine.Device.Panel
import SpriteMachine.Proofs.Text.Case

/-!
# The keyboard follows the last event of each key

Blocks and the host may spell a key in several ways, but each has one name, and naming a name
again changes nothing. So the names that are down are told by the history of the events alone:
a name is down just when the last event of the keys that share it was a press.
-/

namespace SpriteMachine

/-- The host's spellings for which blocks use another name. -/
def renamedKeys : List String :=
  [" ", "Space", "ArrowLeft", "Left", "ArrowRight", "Right", "ArrowUp", "Up", "ArrowDown", "Down",
    "Enter"]

/-- Any other key has its own name, or its small form if it is a single character. -/
theorem keyName_of_plain {key : String} (plain : key ∉ renamedKeys) :
    keyName key = if key.length = 1 then Text.lower key else key := by
  simp only [renamedKeys, List.mem_cons, List.not_mem_nil, or_false, not_or] at plain
  unfold keyName
  split <;> simp_all

/-- The names that blocks use for them are not renamed. -/
theorem keyName_renamed : ∀ key ∈ renamedKeys, keyName (keyName key) = keyName key := by
  decide +kernel

/-- Each of these spellings has a capital in it, or is the space. -/
theorem renamed_capital : ∀ key ∈ renamedKeys,
    (key.toList.any fun c => c = ' ' ∨ Text.lowerChar c ≠ [c]) = true := by
  decide +kernel

/-- The small form of a single character is no such spelling, unless the character is one. -/
theorem lower_plain {key : String} (plain : key ∉ renamedKeys) (single : key.length = 1) :
    Text.lower key ∉ renamedKeys := by
  intro renamed
  obtain ⟨c, alone⟩ : ∃ c, key.toList = [c] := List.length_eq_one_iff.mp single
  obtain ⟨d, member, found⟩ := List.any_eq_true.mp (renamed_capital _ renamed)
  have special := of_decide_eq_true found
  rw [Text.lower, String.toList_ofList, alone, List.flatMap_singleton] at member
  rcases special with rfl | capital
  · obtain rfl := Text.eq_space_of_mem member
    apply plain
    rw [String.toList_inj.mp (alone.trans (by rfl : [' '] = " ".toList))]
    exact List.mem_cons_self
  · exact capital (Text.lowerChar_of_mem member)

/-- A name is its own name. -/
theorem keyName_keyName (key : String) : keyName (keyName key) = keyName key := by
  by_cases renamed : key ∈ renamedKeys
  · exact keyName_renamed key renamed
  · rw [keyName_of_plain renamed]
    by_cases single : key.length = 1
    · rw [if_pos single, keyName_of_plain (lower_plain renamed single), Text.lower_lower, ite_self]
    · rw [if_neg single, keyName_of_plain renamed, if_neg single]

namespace Keyboard

/-- The keyboard behind a sequence of events. -/
def after (keyboard : Keyboard) (events : List KeyEvent) : Keyboard :=
  events.foldl (fun keyboard event => (keyboard.post event).2) keyboard

/-- The last event of the keys that share a name was a press. -/
def Held (events : List KeyEvent) (name : String) : Prop :=
  ∃ event, (events.filter fun event => keyName event.key = name).getLast? = some event ∧
    event.isDown = true

variable {keyboard : Keyboard} {event : KeyEvent} {name : String}

/-- An event decides about its own name and no other. -/
theorem mem_post_iff : name ∈ (keyboard.post event).2.pressed ↔
    if keyName event.key = name then event.isDown = true else name ∈ keyboard.pressed := by
  cases down : event.isDown <;> by_cases same : keyName event.key = name
  · simp [post, down, same]
  · simp [post, down, same, Ne.symm same]
  · by_cases member : name ∈ keyboard.pressed <;> simp [post, down, same, member]
  · by_cases member : keyName event.key ∈ keyboard.pressed <;>
      simp [post, down, same, member, Ne.symm same]

/-- A press is signalled by its name, and nothing else is signalled. -/
theorem post_signal_iff : (keyboard.post event).1 = some name ↔
    event.isDown = true ∧ keyName event.key = name := by
  cases down : event.isDown <;> simp [post, down]

/-- The keyboard behind a history is the one behind its last event. -/
theorem after_concat (keyboard : Keyboard) (events : List KeyEvent) (event : KeyEvent) :
    keyboard.after (events ++ [event]) = ((keyboard.after events).post event).2 :=
  List.foldl_concat (fun (keyboard : Keyboard) event => (keyboard.post event).2) keyboard event
    events

/-- The names that are down are those whose last event was a press. -/
theorem mem_after_iff (events : List KeyEvent) :
    name ∈ (released.after events).pressed ↔ Held events name := by
  induction events using List.reverseRecOn with
  | nil => simp [after, released, Held]
  | append_singleton events event inductionHypothesis =>
    rw [after_concat, mem_post_iff, inductionHypothesis]
    by_cases same : keyName event.key = name <;> simp [Held, List.filter_append, same]

/-- Keys that share a name are one key: the small letter's release ends the capital's press. -/
example : (Keyboard.released.after [⟨"A", true⟩, ⟨" ", true⟩, ⟨"a", false⟩]).pressed =
    ["space"] := by
  decide +kernel

/-- A key that is not `any` is asked for by its name. -/
theorem isPressed_named {key : String} (named : key ≠ "any") :
    keyboard.isPressed key = true ↔ keyName key ∈ keyboard.pressed := by
  rw [isPressed, if_neg named, decide_eq_true_eq]

/-- `any` asks for all names. -/
theorem isPressed_any : keyboard.isPressed "any" = true ↔ ∃ name, name ∈ keyboard.pressed := by
  rw [isPressed, if_pos rfl, Bool.not_eq_true', List.isEmpty_eq_false_iff_exists_mem]

/-- A name that is down is found by asking for the name itself, `any` too. -/
theorem isPressed_of_mem {key : String} (member : keyName key ∈ keyboard.pressed) :
    keyboard.isPressed (keyName key) = true := by
  by_cases named : keyName key = "any"
  · rw [named]
    exact isPressed_any.mpr ⟨keyName key, member⟩
  · rw [isPressed_named named, keyName_keyName]
    exact member

/-- A name that is down stays down while no key of that name goes up. -/
theorem mem_after_of_mem (member : name ∈ keyboard.pressed) (events : List KeyEvent)
    (unreleased : ∀ event ∈ events, keyName event.key = name → event.isDown = true) :
    name ∈ (keyboard.after events).pressed := by
  induction events generalizing keyboard with
  | nil => exact member
  | cons event rest inductionHypothesis =>
    apply inductionHypothesis
    · apply mem_post_iff.mpr
      split
      case isTrue same => exact unreleased event List.mem_cons_self same
      case isFalse => exact member
    · intro later inside
      exact unreleased later (List.mem_cons_of_mem _ inside)

end Keyboard

/-- Data that the host posts to a device. -/
structure Posting where
  device : String
  data : Json

/-- The key event that is posted, where data for the keyboard is one. -/
def Posting.keyEvent? (posting : Posting) : Option KeyEvent :=
  if posting.device = "keyboard" then KeyEvent.ofJson? posting.data else none

namespace Devices

variable {α : Type} [Scalar α]

/-- The devices behind a sequence of postings. -/
def after (devices : Devices α) (postings : List Posting) : Devices α :=
  postings.foldl (fun devices posting => (devices.post posting.device posting.data).2) devices

/-- Other devices leave the keyboard alone, and so does data that is no key event. -/
theorem post_keyboard (devices : Devices α) (posting : Posting) :
    (devices.post posting.device posting.data).2.keyboard =
      devices.keyboard.after posting.keyEvent?.toList := by
  obtain ⟨device, data⟩ := posting
  by_cases addressed : device = "keyboard"
  · subst addressed
    cases read : KeyEvent.ofJson? data <;> simp [post, Posting.keyEvent?, read, Keyboard.after]
  · have silent : Posting.keyEvent? ⟨device, data⟩ = none := if_neg addressed
    rw [silent]
    unfold post
    split
    case h_1 => split <;> rfl
    case h_2 => contradiction
    case h_3 => split <;> rfl
    case h_4 => split <;> rfl
    case h_5 => rfl

/-- The keyboard follows the key events among the postings. -/
theorem after_keyboard (devices : Devices α) (postings : List Posting) :
    (devices.after postings).keyboard =
      devices.keyboard.after (postings.filterMap Posting.keyEvent?) := by
  induction postings generalizing devices with
  | nil => rfl
  | cons posting rest inductionHypothesis =>
    refine (inductionHypothesis _).trans ?_
    rw [post_keyboard, List.filterMap_cons]
    cases posting.keyEvent? <;> rfl

/-- The keyboard signals just the presses that are posted to it, by their names. -/
theorem post_signal_iff {devices : Devices α} {data : Json} {name : String} :
    (devices.post "keyboard" data).1 = .ok (some name) ↔
      ∃ event, KeyEvent.ofJson? data = some event ∧ event.isDown = true ∧
        keyName event.key = name := by
  cases read : KeyEvent.ofJson? data <;>
    simp [post, read, Keyboard.post_signal_iff]

/-- What the keyboard tells behind a sequence of postings to the devices. -/
structure TellsKeys (clock : Clock α) (postings : List Posting) : Prop where
  /-- A key is down just when the last event of its name was a press, however it is spelled. -/
  named : ∀ key, key ≠ "any" →
    (((around clock).after postings).keyboard.isPressed key = true ↔
      Keyboard.Held (postings.filterMap Posting.keyEvent?) (keyName key))
  /-- Any key is down just when the last event of some name was a press. -/
  any : ((around clock).after postings).keyboard.isPressed "any" = true ↔
    ∃ name, Keyboard.Held (postings.filterMap Posting.keyEvent?) name
  /-- A name that is signalled is down from then on until a key of that name goes up. -/
  signalled : ∀ data name,
    (((around clock).after postings).post "keyboard" data).1 = .ok (some name) →
    ∀ later : List Posting,
      (∀ event ∈ later.filterMap Posting.keyEvent?,
        keyName event.key = name → event.isDown = true) →
      ((around clock).after (postings ++ ⟨"keyboard", data⟩ :: later)).keyboard.isPressed name =
        true

/-- Keys are down by their last events: whatever is posted to the devices, each name's last event
decides whether it is down, for every spelling of the key. -/
theorem tells_keys (clock : Clock α) (postings : List Posting) : TellsKeys clock postings := by
  have follows : ∀ all : List Posting, ((around clock).after all).keyboard =
      Keyboard.released.after (all.filterMap Posting.keyEvent?) := after_keyboard (around clock)
  constructor
  · intro key named
    rw [Keyboard.isPressed_named named, follows, Keyboard.mem_after_iff]
  · rw [Keyboard.isPressed_any, follows]
    simp only [Keyboard.mem_after_iff]
  · intro data name signal later unreleased
    obtain ⟨event, read, down, rfl⟩ := post_signal_iff.mp signal
    apply Keyboard.isPressed_of_mem
    have posted : Posting.keyEvent? ⟨"keyboard", data⟩ = some event := (if_pos rfl).trans read
    rw [follows, List.filterMap_append, List.filterMap_cons_some posted, Keyboard.after,
      List.foldl_append, List.foldl_cons]
    apply Keyboard.mem_after_of_mem
    · apply Keyboard.mem_post_iff.mpr
      rw [if_pos rfl]
      exact down
    · exact unreleased

end Devices

end SpriteMachine
