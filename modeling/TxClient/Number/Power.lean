namespace TxClient.Number

def twoTo (count : Nat) : Nat :=
  Nat.pow 2 count

def tenTo (count : Nat) : Nat :=
  Nat.pow 10 count

end TxClient.Number
