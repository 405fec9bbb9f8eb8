import Multiplex.Failure
import Multiplex.Http.Normalize
import Multiplex.Identity

/-!
# Exchanges

An exchange is a request together with the outcome that it will have.  It is
resolved once: the first outcome stays.  The outcome can be claimed once: who
claims it first gets it, now or as soon as there is one, and everyone after
that learns that the exchange was dropped.

While an exchange is under way it is bound to the channel that carries it.  An
exchange lives as long as somebody holds a handle of it.
-/

namespace Multiplex

/-- How an exchange ended. -/
abbrev Outcome := Except ExchangeError Http.Response

/-- A request together with the outcome that it will have. -/
structure Exchange where
  request : Http.Request
  outcome : Option Outcome := none
  claimed : Bool := false
  binding : Option ChannelId := none
  handles : Nat := 1

namespace Exchange

/-- Whether the exchange has its outcome. -/
def isResolved (exchange : Exchange) : Bool := exchange.outcome.isSome

/-- Whether somebody holds a handle. -/
def isHeld (exchange : Exchange) : Bool := exchange.handles != 0

/-- Gives the exchange an outcome unless it has one. -/
def resolve (exchange : Exchange) (outcome : Outcome) : Exchange :=
  { exchange with outcome := exchange.outcome <|> some outcome }

/-- How an exchange is written in an inspection. -/
def inspect (exchange : Exchange) (id : ExchangeId) : String :=
  "Exchange \x7b id: " ++ id.inspect ++ ", resolved: " ++ toString exchange.isResolved ++ " \x7d"

@[simp] theorem isResolved_resolve (exchange : Exchange) (outcome : Outcome) :
    (exchange.resolve outcome).isResolved = true := by
  cases hcases : exchange.outcome <;> simp [resolve, isResolved, hcases]

theorem resolve_of_isResolved {exchange : Exchange} (hresolved : exchange.isResolved = true)
    (outcome : Outcome) : exchange.resolve outcome = exchange := by
  obtain ⟨request, found, claimed, binding, handles⟩ := exchange
  cases found with
  | none => simp [isResolved] at hresolved
  | some first => rfl

end Exchange

end Multiplex
