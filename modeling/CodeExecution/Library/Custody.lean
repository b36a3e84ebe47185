import Mathlib.Logic.Basic

/-!
Exclusive custody: items that are open have at most one holder, and only holders change them.

A stake is a holder's interest in an item together with what it relies on.
-/

namespace Custody

variable {Holder Item Reliance Record : Type*}

/-- The two facts that make unsynchronised writers safe: reliances hold, and open items have one holder. -/
structure Sound (isOpen : Record → Prop) (holds : Reliance → Record → Prop)
    (stake : Holder → Item → Reliance → Prop) (record : Item → Record) : Prop where
  /-- Whatever a holder relies on is true of the item's record. -/
  relied : ∀ holder item reliance, stake holder item reliance → holds reliance (record item)
  /-- Two holders of an open item are the same holder. -/
  exclusive : ∀ item, isOpen (record item) → ∀ first second reliance reliance',
    stake first item reliance → stake second item reliance' → first = second

namespace Sound

variable {isOpen : Record → Prop} {holds : Reliance → Record → Prop}
  {stake stake' : Holder → Item → Reliance → Prop} {record record' : Item → Record}

/--
A step that makes nobody a new holder keeps custody sound.

Records may change where every reliance survives the change.
-/
theorem retain (sound : Sound isOpen holds stake record)
    (opened : ∀ item, isOpen (record' item) → isOpen (record item))
    (survives : ∀ item reliance, holds reliance (record item) → holds reliance (record' item))
    (kept : ∀ holder item reliance, stake' holder item reliance → stake holder item reliance ∨
      (holds reliance (record' item) ∧
        (isOpen (record' item) → ∃ earlier, stake holder item earlier))) :
    Sound isOpen holds stake' record' where
  relied := by
    -- A kept stake relies on what survived, and a restated one brings its own evidence.
    intro holder item reliance staked
    rcases kept holder item reliance staked with earlier | ⟨held, _⟩
    · exact survives item reliance (sound.relied holder item reliance earlier)
    · exact held
  exclusive := by
    -- Both holders had a stake before the step, when the item was already open.
    intro item isOpen' first second reliance reliance' stakedFirst stakedSecond
    have before : ∀ holder reliance, stake' holder item reliance →
        ∃ earlier, stake holder item earlier := by
      intro holder reliance staked
      rcases kept holder item reliance staked with earlier | ⟨_, earlier⟩
      · exact ⟨reliance, earlier⟩
      · exact earlier isOpen'
    obtain ⟨_, earlierFirst⟩ := before first reliance stakedFirst
    obtain ⟨_, earlierSecond⟩ := before second reliance' stakedSecond
    exact sound.exclusive item (opened item isOpen') _ _ _ _ earlierFirst earlierSecond

/-- The holder of an open item is its only holder. -/
theorem sole (sound : Sound isOpen holds stake record) {item : Item} {holder : Holder}
    {reliance : Reliance} (wasOpen : isOpen (record item)) (held : stake holder item reliance)
    (other : Holder) (relied : Reliance) (staked : stake other item relied) : other = holder :=
  -- Both stakes are on the same open item.
  sound.exclusive item wasOpen other holder relied reliance staked held

/--
The only holder of an item may rewrite it and hand it to a successor.

Every stake afterwards is the successor's, or an old stake of somebody else, or on an item that is over.
-/
theorem handover (sound : Sound isOpen holds stake record) (item : Item) (giver taker : Holder)
    (sole : ∀ holder reliance, stake holder item reliance → holder = giver)
    (others : ∀ other, other ≠ item → record' other = record other)
    (moved : ∀ holder at_ reliance, stake' holder at_ reliance →
      (stake holder at_ reliance ∧ (at_ ≠ item ∨ holder ≠ giver)) ∨
      (at_ = item ∧ holder = taker ∧ holds reliance (record' item)) ∨
      (holds reliance (record' at_) ∧ ¬ isOpen (record' at_))) :
    Sound isOpen holds stake' record' where
  relied := by
    -- Away from the item nothing changed, and at the item only the successor is left.
    intro holder at_ reliance staked
    rcases moved holder at_ reliance staked with ⟨earlier, away⟩ | ⟨rfl, _, holdsNow⟩ | ⟨ended, _⟩
    · by_cases same : at_ = item
      · subst same
        rcases away with away | away
        · exact absurd rfl away
        · exact absurd (sole _ _ earlier) away
      · rw [others at_ same]
        exact sound.relied holder at_ reliance earlier
    · exact holdsNow
    · exact ended
  exclusive := by
    -- The item itself has only the successor, and any other item kept its old holders.
    intro at_ isOpen' first second reliance reliance' stakedFirst stakedSecond
    by_cases same : at_ = item
    · subst same
      have successor : ∀ holder relied, stake' holder at_ relied → holder = taker := by
        intro holder relied staked
        rcases moved holder at_ relied staked with
          ⟨earlier, away | away⟩ | ⟨_, isTaker, _⟩ | ⟨_, ended⟩
        · exact absurd rfl away
        · exact absurd (sole _ _ earlier) away
        · exact isTaker
        · exact absurd isOpen' ended
      rw [successor first reliance stakedFirst, successor second reliance' stakedSecond]
    · have before : ∀ holder relied, stake' holder at_ relied →
          ∃ earlier, stake holder at_ earlier := by
        intro holder relied staked
        rcases moved holder at_ relied staked with ⟨earlier, _⟩ | ⟨isItem, _⟩ | ⟨_, ended⟩
        · exact ⟨relied, earlier⟩
        · exact absurd isItem same
        · exact absurd isOpen' ended
      obtain ⟨_, earlierFirst⟩ := before first reliance stakedFirst
      obtain ⟨_, earlierSecond⟩ := before second reliance' stakedSecond
      rw [others at_ same] at isOpen'
      exact sound.exclusive at_ isOpen' _ _ _ _ earlierFirst earlierSecond

end Sound

end Custody
