import Mathlib.Tactic.IntervalCases
import Simetro.Engine.EventHash

/-! When the event part of the hash tells histories apart. Every string but the name in
an agent's decision is fed behind its length, so only the characters of those names
matter. -/

namespace Simetro.Engine.StateHash

open Simetro.Library Simetro.Protocol Chunk

/-- The codes `ActionTag as u8` takes. -/
def IsActionByte (c : Char) : Prop := c.toNat ≤ 8

/-- The codes events start with. -/
def IsEventTag (c : Char) : Prop := 0x10 ≤ c.toNat ∧ c.toNat ≤ 0x22

/-- The agents that decide have names over `alphabet`. -/
def DecidedOver (alphabet : Char → Prop) (events : List SimEvent) : Prop :=
  ∀ agentId action, .agentDecided agentId action ∈ events → ∀ c ∈ agentId.toList, alphabet c

theorem actionByte_le (action : ActionTag) : (actionByte action).toNat ≤ 8 := by
  cases action <;> decide

theorem eventTag_bounds (event : SimEvent) :
    0x10 ≤ (eventTag event).toNat ∧ (eventTag event).toNat ≤ 0x22 := by
  cases event <;> exact ⟨by simp [eventTag], by simp [eventTag]⟩

/-! ## Alphabets that keep histories apart -/

/-- A text that closes with an action byte and spells events uses the code of an event. -/
theorem exists_eventTag {events : List SimEvent} {chars : List Char} {stop : Nat}
    {rest : List UInt8} (low : stop ≤ 8)
    (same : (each feedEvent events).bytes = utf8Chars chars ++ UInt8.ofNat stop :: rest) :
    ∃ c ∈ chars, IsEventTag c := by
  cases events with
  | nil => simp [each] at same
  | cons event events =>
    obtain ⟨payload, front⟩ := feedEvent_head event
    have bounds := eventTag_bounds event
    simp only [each, bytes_append, front, List.cons_append] at same
    cases chars with
    | nil =>
      have heads := congrArg UInt8.toNat (List.cons.inj same).1
      simp only [UInt8.toNat_ofNat'] at heads
      omega
    | cons c chars =>
      have ascii : (eventTag event).toNat < 128 := by omega
      have encoded := utf8EncodeChar_ascii ascii
      rw [UInt8.ofNat_toNat] at encoded
      have chained : String.utf8EncodeChar (Char.ofNat (eventTag event).toNat) ++
          (payload ++ (each feedEvent events).bytes) =
          String.utf8EncodeChar c ++ (utf8Chars chars ++ UInt8.ofNat stop :: rest) := by
        simpa [encoded] using same
      obtain ⟨rfl, -⟩ := utf8EncodeChar_reads chained
      exact ⟨_, List.mem_cons_self, by rw [IsEventTag, toNat_ofNat_ascii ascii]; exact bounds⟩

section Apart

variable {alphabet : Char → Prop}

/-- A name cannot go on where another one closed. -/
theorem not_longer (clear : (∀ c, alphabet c → ¬ IsActionByte c) ∨
      ∀ c, alphabet c → ¬ IsEventTag c)
    {name : String} {shorter chars : List Char} {events : List SimEvent} {action : ActionTag}
    {stop : Nat} {rest : List UInt8} (low : stop ≤ 8) (over_name : ∀ c ∈ name.toList, alphabet c)
    (longer : name.toList = shorter ++ Char.ofNat (actionByte action).toNat :: chars)
    (same : (each feedEvent events).bytes = utf8Chars chars ++ UInt8.ofNat stop :: rest) :
    False := by
  have small := actionByte_le action
  obtain clear | clear := clear
  · apply clear (Char.ofNat (actionByte action).toNat) (over_name _ (by simp [longer]))
    rw [IsActionByte, toNat_ofNat_ascii (by omega)]
    exact small
  · obtain ⟨c, member, tag⟩ := exists_eventTag low same
    exact clear c (over_name c (by simp [longer, member])) tag

theorem events_eq_of_clear (clear : (∀ c, alphabet c → ¬ IsActionByte c) ∨
      ∀ c, alphabet c → ¬ IsEventTag c) :
    ∀ {first second : List SimEvent},
      Agree (each feedEvent first) (each feedEvent second) [] [] →
      DecidedOver alphabet first → DecidedOver alphabet second → first = second
  | [], [], _, _, _ => rfl
  | [], event :: events, agree, _, _ => by
    have ended := agree.2.2
    simp only [each, bytes_append, List.append_assoc] at ended
    exact absurd ended.symm (feedEvent_ne_nil event _)
  | event :: events, [], agree, _, _ => by
    have ended := agree.2.2
    simp only [each, bytes_append, List.append_assoc] at ended
    exact absurd ended (feedEvent_ne_nil event _)
  | event :: events, event' :: events', agree, decided, decided' => by
    have tail : DecidedOver alphabet events := fun agentId action member =>
      decided agentId action (List.mem_cons_of_mem _ member)
    have tail' : DecidedOver alphabet events' := fun agentId action member =>
      decided' agentId action (List.mem_cons_of_mem _ member)
    obtain ⟨rfl, ends⟩ | ⟨agentId, action, agentId', action', rfl, rfl⟩ :=
      feedEvent_agree agree.left
    · rw [events_eq_of_clear clear (agree.right ends) tail tail']
    · have same := agree.2.2
      simp only [each, feedEvent, bare, bytes_append, bytes_byte, bytes_raw, List.append_assoc,
        List.cons_append, List.nil_append, List.append_nil,
        List.cons.injEq, true_and] at same
      have low := actionByte_le action
      have low' := actionByte_le action'
      rw [← UInt8.ofNat_toNat (x := actionByte action),
        ← UInt8.ofNat_toNat (x := actionByte action')] at same
      obtain ⟨names, actions, ends⟩ | ⟨chars, longer, ends⟩ | ⟨chars, longer, ends⟩ :=
        utf8Chars_closed (by omega) (by omega) same
      · obtain rfl := String.toList_injective names
        obtain rfl := actionByte_injective (UInt8.toNat_inj.mp actions)
        have agree' : Agree (each feedEvent events) (each feedEvent events') [] [] :=
          agree.right (by simpa using ends)
        rw [events_eq_of_clear clear agree' tail tail']
      · exact (not_longer clear low' (decided' _ _ List.mem_cons_self) longer ends).elim
      · exact (not_longer clear low (decided _ _ List.mem_cons_self) longer ends).elim

end Apart

/-! ## Alphabets that let histories collide -/

/-- Two short histories over `alphabet` that are fed alike although they start with
different events. -/
structure Clash (alphabet : Char → Prop) (first second : List SimEvent) : Prop where
  over_first : DecidedOver alphabet first
  over_second : DecidedOver alphabet second
  fits_first : (each feedEvent first).fits
  fits_second : (each feedEvent second).fits
  short_first : first.length ≤ 3
  short_second : second.length ≤ 3
  same : (each feedEvent first).bytes = (each feedEvent second).bytes
  heads : (first ++ second).head? ≠ (second ++ first).head?

theorem DecidedOver.append {alphabet : Char → Prop} {first second : List SimEvent}
    (over_first : DecidedOver alphabet first) (over_second : DecidedOver alphabet second) :
    DecidedOver alphabet (first ++ second) := by
  intro agentId action member
  obtain member | member := List.mem_append.mp member
  · exact over_first agentId action member
  · exact over_second agentId action member

theorem feedEvent_decided_fits {agentId : String} {action : ActionTag} :
    (feedEvent (.agentDecided agentId action)).fits := rfl

theorem feedEvents_fits {events : List SimEvent} (fits : (each feedEvent events).fits)
    (short : events.length ≤ 6) : (feedEvents events).fits := by
  have counted : events.length < 256 ^ 8 := by omega
  simpa [feedEvents, bare, unsigned, fits] using counted

/-- One after the other, in both orders, the histories even have the same length. -/
theorem Clash.collide {alphabet : Char → Prop} {first second : List SimEvent}
    (clash : Clash alphabet first second) :
    ∃ history history', (feedEvents history).fits ∧ (feedEvents history').fits ∧
      DecidedOver alphabet history ∧ DecidedOver alphabet history' ∧
      (feedEvents history).bytes = (feedEvents history').bytes ∧ history ≠ history' := by
  have shorts := clash.short_first
  have shorts' := clash.short_second
  have events_fit {front back : List SimEvent} (fits : (each feedEvent front).fits)
      (fits' : (each feedEvent back).fits) : (each feedEvent (front ++ back)).fits := by
    rw [fits_each] at fits fits' ⊢
    exact List.forall_mem_append.mpr ⟨fits, fits'⟩
  refine ⟨first ++ second, second ++ first, ?_, ?_, clash.over_first.append clash.over_second,
    clash.over_second.append clash.over_first, ?_, ?_⟩
  · exact feedEvents_fits (events_fit clash.fits_first clash.fits_second)
      (by rw [List.length_append]; omega)
  · exact feedEvents_fits (events_fit clash.fits_second clash.fits_first)
      (by rw [List.length_append]; omega)
  · have same := clash.same
    simp only [bytes_each] at same
    simp only [feedEvents, bytes_append, bytes_each, List.flatMap_append, same,
      List.length_append, Nat.add_comm]
  · intro equal
    exact clash.heads (by rw [equal])

/-- The name that swallows `tag` and what follows it. -/
def swallowed (action : ActionTag) (tag count : Nat) : String :=
  String.ofList (asciiChars ((actionByte action).toNat :: tag ::
    List.replicate count (actionByte action).toNat))

theorem utf8_swallowed (action : ActionTag) {tag : Nat} (count : Nat) (ascii : tag < 128) :
    utf8 (swallowed action tag count) =
      actionByte action :: UInt8.ofNat tag :: List.replicate count (actionByte action) := by
  have low := actionByte_le action
  rw [swallowed, utf8_ofList, utf8Chars_ascii]
  · simp
  · intro code member
    simp only [List.mem_cons, List.mem_replicate] at member
    omega

/-- An event without strings whose payload is one byte over and over, then a zero. -/
theorem exists_plain_event (action : ActionTag) {tag : Nat} (low : 0x10 ≤ tag)
    (high : tag ≤ 0x16) :
    ∃ event count, (feedEvent event).fits ∧ (feedEvent event).bytes =
        UInt8.ofNat tag :: (List.replicate count (actionByte action) ++ [0]) ∧
      ∀ agentId action', event = .agentDecided agentId action' → agentId = "" := by
  have byteLow := actionByte_le action
  obtain ⟨word, word_small, word_bytes⟩ : ∃ word, word < 256 ^ 4 ∧
      leBytes 4 word = List.replicate 4 (actionByte action) := by
    refine ⟨(actionByte action).toNat * 0x01010101, by omega, ?_⟩
    cases action <;> rfl
  obtain ⟨tail, tail_small, tail_bytes⟩ : ∃ tail, tail < 256 ^ 4 ∧
      leBytes 4 tail = List.replicate 3 (actionByte action) ++ [0] := by
    refine ⟨(actionByte action).toNat * 0x010101, by omega, ?_⟩
    cases action <;> rfl
  obtain ⟨long, long_small, long_bytes⟩ : ∃ long, long < 256 ^ 8 ∧
      leBytes 8 long = List.replicate 7 (actionByte action) ++ [0] := by
    refine ⟨(actionByte action).toNat * 0x01010101010101, by omega, ?_⟩
    cases action <;> rfl
  have word_bits : (BitVec.ofNat 32 word).toNat = word := Nat.mod_eq_of_lt word_small
  have tail_bits : (BitVec.ofNat 32 tail).toNat = tail := Nat.mod_eq_of_lt tail_small
  have word_fits : (unsigned 4 word).fits = true := fits_unsigned.mpr word_small
  have tail_fits : (unsigned 4 tail).fits = true := fits_unsigned.mpr tail_small
  have long_fits : (unsigned 8 long).fits = true := fits_unsigned.mpr long_small
  obtain rfl | rfl | rfl | rfl | rfl | rfl | rfl : tag = 0x10 ∨ tag = 0x11 ∨ tag = 0x12 ∨
      tag = 0x13 ∨ tag = 0x14 ∨ tag = 0x15 ∨ tag = 0x16 := by omega
  · refine ⟨.moverDeparted word word tail, 11, ?_, ?_, by simp⟩
    · simp only [feedEvent, fits_append, fits_byte, word_fits, tail_fits, Bool.and_self]
    · simp [feedEvent, unsigned, word_bytes, tail_bytes, List.replicate]
  · refine ⟨.moverArrived word word tail, 11, ?_, ?_, by simp⟩
    · simp only [feedEvent, fits_append, fits_byte, word_fits, tail_fits, Bool.and_self]
    · simp [feedEvent, unsigned, word_bytes, tail_bytes, List.replicate]
  · refine ⟨.moverSpeedChange word (.ofNat 32 word) (.ofNat 32 tail), 11, ?_, ?_, by simp⟩
    · simp only [feedEvent, word32, word_bits, tail_bits]
      simp only [fits_append, fits_byte, word_fits, tail_fits, Bool.and_self]
    · simp only [feedEvent, word32, word_bits, tail_bits]
      simp [unsigned, word_bytes, tail_bytes, List.replicate]
  · refine ⟨.nodeHighlighted word .agentFocus, 4, ?_, ?_, by simp⟩
    · simp only [feedEvent, fits_append, fits_byte, word_fits, Bool.and_self]
    · simp [feedEvent, unsigned, word_bytes, highlightByte]
  · refine ⟨.pathPulsed tail, 3, ?_, ?_, by simp⟩
    · simp only [feedEvent, fits_append, fits_byte, tail_fits, Bool.and_self]
    · simp [feedEvent, unsigned, tail_bytes]
  · exact ⟨.agentDecided "" .noOp, 0, rfl, rfl, by rintro _ _ ⟨⟩; rfl⟩
  · refine ⟨.tick long, 7, ?_, ?_, by simp⟩
    · simp only [feedEvent, fits_append, fits_byte, long_fits, Bool.and_self]
    · simp [feedEvent, unsigned, long_bytes]

theorem decidedOver_unnamed {alphabet : Char → Prop} (action : ActionTag) {events : List SimEvent}
    (unnamed : ∀ agentId action', .agentDecided agentId action' ∈ events → agentId = "") :
    DecidedOver alphabet (.agentDecided "" action :: events) := by
  intro agentId action' member
  have empty : agentId = "" := by
    obtain equal | member := List.mem_cons.mp member
    · cases equal
      rfl
    · exact unnamed agentId action' member
  simp [empty]

/-- A history that starts with the decision of an agent so named. -/
theorem decidedOver_swallowed {alphabet : Char → Prop} {action : ActionTag} {tag : Nat}
    (action_letter : alphabet (Char.ofNat (actionByte action).toNat))
    (tag_letter : alphabet (Char.ofNat tag)) (count : Nat) (action' : ActionTag)
    {events : List SimEvent}
    (undecided : ∀ agentId action', .agentDecided agentId action' ∉ events) :
    DecidedOver alphabet (.agentDecided (swallowed action tag count) action' :: events) := by
  intro agentId decision member c character
  obtain equal | member := List.mem_cons.mp member
  · cases equal
    simp only [swallowed, String.toList_ofList, asciiChars, List.map_cons, List.map_replicate,
      List.mem_cons, List.mem_replicate] at character
    obtain rfl | rfl | ⟨-, rfl⟩ := character
    · exact action_letter
    · exact tag_letter
    · exact action_letter
  · exact absurd member (undecided agentId decision)

theorem clash_of_plain {alphabet : Char → Prop} {action : ActionTag} {tag : Nat}
    (action_letter : alphabet (Char.ofNat (actionByte action).toNat))
    (tag_letter : alphabet (Char.ofNat tag)) (low : 0x10 ≤ tag) (high : tag ≤ 0x16) :
    ∃ first second, Clash alphabet first second := by
  obtain ⟨event, count, fits, bytes, unnamed⟩ := exists_plain_event action low high
  have ascii_tag : tag < 128 := by omega
  have named := utf8_swallowed action count ascii_tag
  refine ⟨[.agentDecided "" action, event], [.agentDecided (swallowed action tag count) .noOp], ?_⟩
  constructor
  case over_first =>
    apply decidedOver_unnamed
    intro agentId action' member
    exact unnamed agentId action' (List.mem_singleton.mp member).symm
  case over_second =>
    exact decidedOver_swallowed action_letter tag_letter count .noOp (by simp)
  case fits_first =>
    rw [fits_each]
    intro other member
    obtain rfl | rfl : other = .agentDecided "" action ∨ other = event := by simpa using member
    · exact feedEvent_decided_fits
    · exact fits
  case fits_second =>
    rw [fits_each]
    intro other member
    rw [List.mem_singleton.mp member]
    exact feedEvent_decided_fits
  case short_first => simp
  case short_second => simp
  case same =>
    simp only [each, bytes_append, bytes]
    simp [feedEvent, bare, named, actionByte, show utf8 "" = [] from rfl]
  case heads =>
    intro equal
    obtain ⟨empty, -⟩ : swallowed action tag count = "" ∧ action = .noOp := by simpa using equal
    rw [empty] at named
    exact absurd named (by simp [show utf8 "" = [] from rfl])

/-- An event that starts with a string, and the ASCII bytes that close it. -/
theorem exists_led_event {tag : Nat} (low : 0x17 ≤ tag) (high : tag ≤ 0x22) :
    ∃ (event : String → SimEvent) (closing : List Nat),
      8 ≤ closing.length ∧ closing.length ≤ 40 ∧ (∀ code ∈ closing, code < 128) ∧
      ∀ text, ((utf8 text).length < 256 ^ 8 → (feedEvent (event text)).fits) ∧
        (feedEvent (event text)).bytes = UInt8.ofNat tag :: (leBytes 8 (utf8 text).length ++
          (utf8 text ++ closing.map UInt8.ofNat)) ∧
        ∀ agentId action, event text ≠ .agentDecided agentId action := by
  have zero : leBytes 8 0 = List.replicate 8 0 := rfl
  have none : utf8 "" = [] := rfl
  obtain rfl | rfl | rfl | rfl | rfl | rfl | rfl | rfl | rfl | rfl | rfl | rfl :
      tag = 0x17 ∨ tag = 0x18 ∨ tag = 0x19 ∨ tag = 0x1a ∨ tag = 0x1b ∨ tag = 0x1c ∨ tag = 0x1d ∨
        tag = 0x1e ∨ tag = 0x1f ∨ tag = 0x20 ∨ tag = 0x21 ∨ tag = 0x22 := by omega
  · refine ⟨fun text => .sl1PressureLifecycle text "" .activated 0,
      List.replicate 8 0 ++ 1 :: List.replicate 8 0, by decide, by decide, by decide, ?_⟩
    exact fun text => ⟨fun small => by simpa [feedEvent, str, unsigned, none] using small,
      by simp [feedEvent, str, unsigned, zero, none, sl1PressureEventTag], by simp⟩
  · refine ⟨fun text => .sl1ObjectiveStateChanged text .unknown .unknown 0,
      List.replicate 10 0, by decide, by decide, by decide, ?_⟩
    exact fun text => ⟨fun small => by simpa [feedEvent, str, unsigned] using small,
      by simp [feedEvent, str, unsigned, zero, sl1ObjectiveStatusTag], by simp⟩
  · refine ⟨fun text => .sl1FailureConditionFired text 0,
      List.replicate 8 0, by decide, by decide, by decide, ?_⟩
    exact fun text => ⟨fun small => by simpa [feedEvent, str, unsigned] using small,
      by simp [feedEvent, str, unsigned, zero], by simp⟩
  · refine ⟨fun text => .sl1VictoryConditionMet text 0,
      List.replicate 8 0, by decide, by decide, by decide, ?_⟩
    exact fun text => ⟨fun small => by simpa [feedEvent, str, unsigned] using small,
      by simp [feedEvent, str, unsigned, zero], by simp⟩
  · refine ⟨fun text => .sl1GameOutcomeChanged text "" 0 .none,
      List.replicate 17 0, by decide, by decide, by decide, ?_⟩
    exact fun text => ⟨fun small => by simpa [feedEvent, str, unsigned, none, maybe] using small,
      by simp [feedEvent, str, unsigned, zero, none, maybe], by simp⟩
  · refine ⟨fun text => .sl1DashboardStateChanged text "" "" 0 .none,
      List.replicate 25 0, by decide, by decide, by decide, ?_⟩
    exact fun text => ⟨fun small => by simpa [feedEvent, str, unsigned, none, maybe] using small,
      by simp [feedEvent, str, unsigned, zero, none, maybe], by simp⟩
  · refine ⟨fun text => .sl1AlertFired text "" 0 "" "" 0,
      List.replicate 40 0, by decide, by decide, by decide, ?_⟩
    exact fun text => ⟨fun small => by simpa [feedEvent, str, unsigned, none] using small,
      by simp [feedEvent, str, unsigned, zero, none], by simp⟩
  · refine ⟨fun text => .sl1AlertCleared text "" 0,
      List.replicate 16 0, by decide, by decide, by decide, ?_⟩
    exact fun text => ⟨fun small => by simpa [feedEvent, str, unsigned, none] using small,
      by simp [feedEvent, str, unsigned, zero, none], by simp⟩
  · refine ⟨fun text => .sl1AgentActionApplied text "" "" 0 0,
      List.replicate 32 0, by decide, by decide, by decide, ?_⟩
    exact fun text => ⟨fun small => by simpa [feedEvent, str, unsigned, none] using small,
      by simp [feedEvent, str, unsigned, zero, none], by simp⟩
  · refine ⟨fun text => .sl1AgentActionRejected text "" .none "" 0,
      List.replicate 25 0, by decide, by decide, by decide, ?_⟩
    exact fun text => ⟨fun small => by simpa [feedEvent, str, unsigned, none, maybe] using small,
      by simp [feedEvent, str, unsigned, zero, none, maybe], by simp⟩
  · refine ⟨fun text => .sl1AgentLlmDisabled text 0,
      List.replicate 8 0, by decide, by decide, by decide, ?_⟩
    exact fun text => ⟨fun small => by simpa [feedEvent, str, unsigned] using small,
      by simp [feedEvent, str, unsigned, zero], by simp⟩
  · refine ⟨fun text => .sl1MilestoneFired text "" "" [] .none 0,
      List.replicate 33 0, by decide, by decide, by decide, ?_⟩
    exact fun text => ⟨fun small => by
        simpa [feedEvent, str, unsigned, none, maybe, counted, each] using small,
      by simp [feedEvent, str, unsigned, zero, none, maybe, counted, each], by simp⟩

def padding : List Nat := List.replicate 5623 0

theorem length_padding : padding.length = 5623 := List.length_replicate

theorem padding_ascii : ∀ code ∈ padding, code < 128 := by
  intro code member
  rw [List.eq_of_mem_replicate member]
  decide

/-- The string of the led event. Its length spells the start of a tick that its first two
bytes complete, and it goes on with a second event. -/
def overlong (closing : Nat) : String :=
  String.ofList (asciiChars ([0, 0, 0x21, closing - 8, 0x16, 0, 0, 0, 0, 0, 0] ++ padding))

/-- The string of the second event. It takes in the rest of the led event. -/
def enclosed (closing : List Nat) : String :=
  String.ofList (asciiChars (padding ++ closing ++ [0x16]))

theorem utf8_overlong {closing : Nat} (low : 8 ≤ closing) (high : closing ≤ 40) :
    utf8 (overlong closing) =
      [0, 0, 0x21] ++ leBytes 8 (5624 + closing) ++ padding.map UInt8.ofNat := by
  obtain ⟨extra, rfl⟩ := Nat.exists_eq_add_of_le low
  have bytes : leBytes 8 (5624 + (8 + extra)) = [UInt8.ofNat extra, 0x16, 0, 0, 0, 0, 0, 0] := by
    have high_byte : (5632 + extra) / 256 = 22 := by omega
    have low_byte : UInt8.ofNat (5632 + extra) = UInt8.ofNat extra := by
      apply UInt8.toNat_inj.mp
      simp only [UInt8.toNat_ofNat']
      omega
    rw [← Nat.add_assoc]
    simp [leBytes, high_byte, low_byte]
  rw [overlong, utf8_ofList, utf8Chars_ascii, bytes]
  · simp
  · intro code member
    obtain header | member := List.mem_append.mp member
    · simp only [List.mem_cons, List.not_mem_nil, or_false] at header
      omega
    · exact padding_ascii code member

theorem utf8_enclosed {closing : List Nat} (ascii : ∀ code ∈ closing, code < 128) :
    utf8 (enclosed closing) =
      padding.map UInt8.ofNat ++ (closing.map UInt8.ofNat ++ [0x16]) := by
  rw [enclosed, utf8_ofList, utf8Chars_ascii]
  · simp
  · intro code member
    simp only [List.mem_append, List.mem_singleton] at member
    obtain (member | member) | rfl := member
    · exact padding_ascii code member
    · exact ascii code member
    · decide

theorem clash_of_led {alphabet : Char → Prop} {action : ActionTag} {tag : Nat}
    (action_letter : alphabet (Char.ofNat (actionByte action).toNat))
    (tag_letter : alphabet (Char.ofNat tag)) (low : 0x17 ≤ tag) (high : tag ≤ 0x22) :
    ∃ first second, Clash alphabet first second := by
  obtain ⟨event, closing, long, short, ascii, led⟩ := exists_led_event low high
  obtain ⟨fits, bytes, undecided⟩ := led (overlong closing.length)
  have ascii_tag : tag < 128 := by omega
  have named := utf8_swallowed action 0 ascii_tag
  have outer := utf8_overlong long short
  have inner := utf8_enclosed ascii
  have outer_length : (utf8 (overlong closing.length)).length = 5634 := by
    simp [outer, length_padding]
  have inner_length : (utf8 (enclosed closing)).length = 5624 + closing.length := by
    simp only [inner, List.length_append, List.length_map, length_padding, List.length_singleton]
    omega
  have zero_fits : (u64 0).fits := by decide
  refine ⟨[.agentDecided "" action, event (overlong closing.length), .tick 0],
    [.agentDecided (swallowed action tag 0) .placePiece, .tick 0,
      .sl1AgentLlmDisabled (enclosed closing) 0], ?_⟩
  constructor
  case over_first =>
    apply decidedOver_unnamed
    intro agentId action' member
    obtain equal | equal : .agentDecided agentId action' = event (overlong closing.length) ∨
      .agentDecided agentId action' = SimEvent.tick 0 := by simpa using member
    · exact absurd equal.symm (undecided agentId action')
    · cases equal
  case over_second =>
    exact decidedOver_swallowed action_letter tag_letter 0 .placePiece (by simp)
  case fits_first =>
    rw [fits_each]
    intro other member
    obtain rfl | rfl | rfl : other = .agentDecided "" action ∨
        other = event (overlong closing.length) ∨ other = .tick 0 := by simpa using member
    · exact feedEvent_decided_fits
    · exact fits (by omega)
    · exact zero_fits
  case fits_second =>
    have name_fits : (u64 (utf8 (enclosed closing)).length).fits := by
      rw [fits_unsigned]
      omega
    rw [fits_each]
    intro other member
    obtain rfl | rfl | rfl : other = .agentDecided (swallowed action tag 0) .placePiece ∨
        other = .tick 0 ∨ other = .sl1AgentLlmDisabled (enclosed closing) 0 := by
      simpa using member
    · exact feedEvent_decided_fits
    · exact zero_fits
    · simp only [feedEvent, str, fits_append, fits_byte, fits_raw, name_fits, zero_fits,
        Bool.and_self]
  case short_first => simp
  case short_second => simp
  case same =>
    have length_bytes : leBytes 8 5634 = [2, 0x16, 0, 0, 0, 0, 0, 0] := rfl
    have zero : leBytes 8 0 = List.replicate 8 0 := rfl
    have none : utf8 "" = [] := rfl
    simp only [each, bytes_append, bytes, outer_length, length_bytes]
    simp only [feedEvent, bare, str, unsigned, bytes_append, bytes_byte, bytes_raw, named,
      inner_length]
    rw [outer, inner]
    simp [none, zero, actionByte]
  case heads =>
    intro equal
    obtain ⟨empty, -⟩ : swallowed action tag 0 = "" ∧ action = .placePiece := by simpa using equal
    rw [empty] at named
    exact absurd named (by simp [show utf8 "" = [] from rfl])

/-- Both kinds of characters together: some two histories are fed alike. -/
theorem clash_of_letters {alphabet : Char → Prop} {action tag : Char}
    (action_letter : alphabet action) (is_action : IsActionByte action)
    (tag_letter : alphabet tag) (is_tag : IsEventTag tag) :
    ∃ first second, Clash alphabet first second := by
  obtain ⟨decision, code⟩ : ∃ decision, (actionByte decision).toNat = action.toNat := by
    have small : action.toNat < 9 := Nat.lt_succ_of_le is_action
    generalize action.toNat = code at small
    interval_cases code
    exacts [⟨.noOp, rfl⟩, ⟨.setSpeed, rfl⟩, ⟨.placePiece, rfl⟩, ⟨.connectPieces, rfl⟩,
      ⟨.removePiece, rfl⟩, ⟨.defineResource, rfl⟩, ⟨.addProducer, rfl⟩, ⟨.addConsumer, rfl⟩,
      ⟨.setGoal, rfl⟩]
  rw [← Char.ofNat_toNat action, ← code] at action_letter
  rw [← Char.ofNat_toNat tag] at tag_letter
  by_cases plain : tag.toNat ≤ 0x16
  · exact clash_of_plain action_letter tag_letter is_tag.1 plain
  · exact clash_of_led action_letter tag_letter (by omega) is_tag.2

/-! ## The exact condition -/

/-- Two histories that are fed alike are the same exactly when the names in their
decisions have the same lengths. In terms of the names' characters: no two histories
over an alphabet are fed alike exactly when the alphabet lacks the codes of actions or
the codes of events. -/
theorem events_determined_iff (alphabet : Char → Prop) :
    (∀ first second, (feedEvents first).fits → (feedEvents second).fits →
      (feedEvents first).bytes = (feedEvents second).bytes →
      (first = second ↔ decidedLengths first = decidedLengths second)) ∧
    ((∀ first second, (feedEvents first).fits → (feedEvents second).fits →
        DecidedOver alphabet first → DecidedOver alphabet second →
        (feedEvents first).bytes = (feedEvents second).bytes → first = second) ↔
      (∀ c, alphabet c → ¬ IsActionByte c) ∨ ∀ c, alphabet c → ¬ IsEventTag c) := by
  have agree {first second : List SimEvent} (fits : (feedEvents first).fits)
      (fits' : (feedEvents second).fits)
      (same : (feedEvents first).bytes = (feedEvents second).bytes) :
      Agree (each feedEvent first) (each feedEvent second) [] [] := by
    have whole : Agree (feedEvents first) (feedEvents second) [] [] :=
      ⟨fits, fits', by rw [same]⟩
    rw [feedEvents, feedEvents, Chunk.append_assoc, Chunk.append_assoc] at whole
    exact ((Reads.unsigned 8).next whole.skip).2
  constructor
  · intro first second fits fits' same
    constructor
    · intro equal
      rw [equal]
    · exact events_eq (agree fits fits' same)
  · constructor
    · intro apart
      by_contra unclear
      obtain ⟨⟨action, action_letter, is_action⟩, tag, tag_letter, is_tag⟩ :
          (∃ c, alphabet c ∧ IsActionByte c) ∧ ∃ c, alphabet c ∧ IsEventTag c := by
        simpa using unclear
      obtain ⟨_, _, clash⟩ := clash_of_letters action_letter is_action tag_letter is_tag
      obtain ⟨history, history', fits, fits', overs, overs', same, different⟩ := clash.collide
      exact different (apart history history' fits fits' overs overs' same)
    · intro clear first second fits fits' overs overs' same
      exact events_eq_of_clear clear (agree fits fits' same) overs overs'

/-- Two decisions of nameless agents, or one decision of an agent called NUL NAK before
and after a nameless one. -/
theorem events_fed_alike :
    let swapped : List SimEvent :=
      [.agentDecided "" .noOp, .agentDecided (String.ofList ['\x00', '\x15']) .noOp]
    (feedEvents swapped).fits ∧ (feedEvents swapped.reverse).fits ∧
      (feedEvents swapped).bytes = (feedEvents swapped.reverse).bytes ∧
      swapped ≠ swapped.reverse := by
  decide

end Simetro.Engine.StateHash
