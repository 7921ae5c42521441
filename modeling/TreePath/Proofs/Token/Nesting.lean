import TreePath.Token.Basic
namespace TreePath

variable {token : Token} {tokens before behind : List Token} {level : Nat}

def Token.levelBehind (level : Nat) : Token → Nat
  | .leftParen => level + 1
  | .leftBracket => level + 1
  | .rightParen => level - 1
  | .rightBracket => level - 1
  | _ => level

def deepest (level : Nat) : List Token → Nat
  | [] => level
  | token :: rest => max level (deepest (token.levelBehind level) rest)

-- How deep tokens nest brackets, round and square.
def nesting (tokens : List Token) : Nat := deepest 0 tokens

-- All brackets that these tokens open they close, so what stands behind them nests on the level it would
-- without them.
def Balanced (tokens : List Token) : Prop :=
  ∀ level behind, deepest level (tokens ++ behind) = max (level + nesting tokens) (deepest level behind)

theorem le_deepest : level ≤ deepest level tokens := by
  cases tokens with
  | nil => exact Nat.le_refl level
  | cons token rest => exact Nat.le_max_left _ _

theorem Balanced.nesting_append (balanced : Balanced before) :
    nesting (before ++ behind) = max (nesting before) (nesting behind) := by
  rw [nesting, balanced, Nat.zero_add]
  rfl

theorem Balanced.append (first : Balanced before) (second : Balanced behind) :
    Balanced (before ++ behind) := by
  intro level rest
  rw [List.append_assoc, first, second, first.nesting_append]
  omega

theorem Balanced.cons (neutral : ∀ level, token.levelBehind level = level) (balanced : Balanced tokens) :
    Balanced (token :: tokens) ∧ nesting (token :: tokens) = nesting tokens := by
  have same : nesting (token :: tokens) = nesting tokens := by
    unfold nesting
    rw [deepest, neutral]
    exact Nat.zero_max _
  refine ⟨fun level rest => ?_, same⟩
  rw [List.cons_append, deepest, neutral, balanced, same]
  omega

theorem balanced_nil : Balanced [] := by
  intro level rest
  have bound : level ≤ deepest level rest := le_deepest
  change deepest level rest = max (level + 0) (deepest level rest)
  omega

theorem Balanced.wrap {opening closing : Token} (balanced : Balanced tokens)
    (opens : ∀ level, opening.levelBehind level = level + 1)
    (closes : ∀ level, closing.levelBehind level = level - 1) :
    Balanced (opening :: (tokens ++ [closing])) ∧
      nesting (opening :: (tokens ++ [closing])) = nesting tokens + 1 := by
  have inside : ∀ level rest, deepest level (opening :: (tokens ++ closing :: rest)) =
      max (level + (nesting tokens + 1)) (deepest level rest) := by
    intro level rest
    have bound : level ≤ deepest level rest := le_deepest
    rw [deepest, opens, balanced, deepest, closes, Nat.add_sub_cancel]
    omega
  have same : nesting (opening :: (tokens ++ [closing])) = nesting tokens + 1 := by
    rw [nesting, inside]
    change max (0 + (nesting tokens + 1)) 0 = _
    omega
  refine ⟨fun level rest => ?_, same⟩
  rw [List.cons_append, List.append_assoc, List.singleton_append, inside, same]

end TreePath
