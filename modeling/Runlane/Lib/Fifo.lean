import Runlane.Lib.KeyedList

/-!
First-in-first-out queues, and many of them in one pair of lists.

A queue keeps what was taken from it beside what still waits, so that what was
ever put into it is the one followed by the other. A store that serves many
keys may keep a single list of what waits and a single list of what was taken,
and find the next element for a key by search. Each key then has a queue of its
own in these lists, and a change made for one key is invisible to the others.
-/

universe u v

structure Fifo (α : Type u) where
  taken : List α
  waiting : List α

namespace Fifo

open KeyedList

variable {α : Type u}

/-- Everything that was ever put into the queue, in order. -/
def posted (q : Fifo α) : List α :=
  q.taken ++ q.waiting

def post (q : Fifo α) (a : α) : Fifo α :=
  { q with waiting := q.waiting ++ [a] }

def take (q : Fifo α) : Fifo α where
  taken := q.taken ++ q.waiting.head?.toList
  waiting := q.waiting.tail

@[simp] theorem posted_post (q : Fifo α) (a : α) : (q.post a).posted = q.posted ++ [a] :=
  (List.append_assoc _ _ _).symm

@[simp] theorem posted_take (q : Fifo α) : q.take.posted = q.posted := by
  obtain ⟨taken, waiting⟩ := q
  cases waiting with
  | nil => simp [posted, take]
  | cons a waiting => simp [posted, take]

section Lanes

variable {κ : Type v} [DecidableEq κ] (key : α → κ)

/-- The queue of one key in lists that all keys share. -/
def lane (taken waiting : List α) (k : κ) : Fifo α where
  taken := taken.filter fun a => decide (key a = k)
  waiting := waiting.filter fun a => decide (key a = k)

theorem head?_lane (taken waiting : List α) (k : κ) :
    (lane key taken waiting k).waiting.head? = lookup key waiting k :=
  List.head?_filter

theorem lane_post (taken waiting : List α) (a : α) (k : κ) :
    lane key taken (waiting ++ [a]) k =
      if k = key a then (lane key taken waiting k).post a else lane key taken waiting k := by
  by_cases same : k = key a
  · simp [lane, post, same]
  · simp [lane, same, Ne.symm same]

private theorem filter_eraseP (waiting : List α) (k k' : κ) :
    (waiting.eraseP fun a => decide (key a = k)).filter (fun a => decide (key a = k')) =
      if k' = k then (waiting.filter fun a => decide (key a = k)).tail
      else waiting.filter fun a => decide (key a = k') := by
  induction waiting with
  | nil => simp
  | cons a waiting ih =>
      by_cases first : key a = k
      · by_cases same : k' = k
        · simp [first, same]
        · simp [first, same, Ne.symm same]
      · by_cases same : k' = k
        · simpa [first, same] using ih
        · rw [if_neg same] at ih ⊢
          simp [first, List.filter_cons, ih]

/-- Taking the first element found for a key takes from the queue of that key. -/
theorem lane_take {taken waiting : List α} {a : α} (found : lookup key waiting (key a) = some a)
    (k : κ) :
    lane key (taken ++ [a]) (waiting.eraseP fun b => decide (key b = key a)) k =
      if k = key a then (lane key taken waiting k).take else lane key taken waiting k := by
  have head := head?_lane key taken waiting (key a)
  rw [found] at head
  by_cases same : k = key a
  · rw [if_pos same, same, take, head]
    simp [lane, filter_eraseP]
  · simp [lane, filter_eraseP, same, Ne.symm same]

end Lanes

end Fifo
