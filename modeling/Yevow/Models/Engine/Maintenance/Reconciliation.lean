import Yevow.Models.Engine.ExecutionAccounting

/-!
# Order reconciliation

The janitor compares the order map with the orders that the exchange lists as open. It takes
over what the exchange says of an order listed under its client id, marks orders cancelled and
asks for cancellations.
-/

namespace Yevow.Engine

open JavaScript (Record)

/-- An open order as the exchange lists it. -/
structure ExchangeOpenOrder where
  clientId : Option String
  exchangeOrderId : String
  instrumentCode : String
  filledSize : ℚ
  status : ManagedOrderStatus
  deriving DecidableEq

/-- What asking for the open orders gives. A fetch fails if it throws, if its response is not
ok or if the response carries no list. -/
inductive OpenOrdersAnswer
  | unbound
  | failed
  | listed (orders : List ExchangeOpenOrder)

/-- The open orders that the exchange lists. -/
def fetchJanitorExchangeOpenOrders : OpenOrdersAnswer → List ExchangeOpenOrder
  | .unbound => []
  | .failed => []
  | .listed orders => orders

/-- Why an order is cancelled. -/
inductive JanitorCancelReason
  | orphanExchangeOrder
  | zombieLocalOrder
  deriving DecidableEq, Repr

/-- A cancel that the janitor asks for. -/
structure JanitorCancellationRequest where
  orderId : String
  reason : JanitorCancelReason
  instrumentCode : Option String
  deriving DecidableEq

/-- The orders on both sides. -/
structure JanitorOrderReconciliationInput where
  orderMap : Record ManagedOrder
  exchangeOpenOrders : List ExchangeOpenOrder
  zombieOrders : List String
  observedAt : String

/-- The orders after they were compared. -/
structure JanitorOrderReconciliation where
  orderMap : Record ManagedOrder
  reconciledOrders : List String
  orphanExchangeOrders : List String
  cancelledOrders : List String
  cancellationRequests : List JanitorCancellationRequest

/-- An open order with a client id. -/
def hasClientId (order : ExchangeOpenOrder) : Bool :=
  order.clientId.any (· ≠ "")

/-- The map by client id; of orders with the same one it keeps the last. -/
def exchangeByClientId (orders : List ExchangeOpenOrder) (clientId : String) :
    Option ExchangeOpenOrder :=
  (orders.filter hasClientId).reverse.find? (·.clientId = some clientId)

namespace JanitorOrderReconciliationInput

variable (input : JanitorOrderReconciliationInput)

/-- The local order is taken for cancelled: its exchange id is not listed. -/
def isUnlisted (localOrder : ManagedOrder) : Bool :=
  localOrder.exchangeOrderId.any
      (fun id => id ≠ "" ∧ id ∉ input.exchangeOpenOrders.map ExchangeOpenOrder.exchangeOrderId) ∧
    (localOrder.status = .pending ∨ localOrder.status = .open)

/-- The loop over the local orders, for one of them. -/
def reconciledOrder (clientId : String) (localOrder : ManagedOrder) : ManagedOrder :=
  match exchangeByClientId input.exchangeOpenOrders clientId with
  | some remote =>
    { localOrder with
      exchangeOrderId := some remote.exchangeOrderId
      filledSize := remote.filledSize
      status := remote.status
      updatedAt := input.observedAt }
  | none =>
    if input.isUnlisted localOrder then
      { localOrder with
        status := .cancelled
        updatedAt := input.observedAt }
    else localOrder

/-- The order map after the loop over the local orders. -/
def reconciledMap : Record ManagedOrder := input.orderMap.map input.reconciledOrder

/-- The loop over the listed orders leaves out those with the client id of a local order. -/
def isKnown (remote : ExchangeOpenOrder) : Bool :=
  remote.clientId.any fun id => id ≠ "" ∧ (input.reconciledMap.get? id).isSome

/-- Open orders that the engine does not know. -/
def orphans : List ExchangeOpenOrder :=
  input.exchangeOpenOrders.filter fun remote => ¬input.isKnown remote

/-- The loop over the zombie orders, for one of them. -/
def cancelZombie (orderMap : Record ManagedOrder) (clientId : String) : Record ManagedOrder :=
  match orderMap.get? clientId with
  | some order =>
    orderMap.set clientId { order with
      status := .cancelled
      updatedAt := input.observedAt }
  | none => orderMap

end JanitorOrderReconciliationInput

/-- The orders on both sides are compared. -/
def reconcileJanitorOrders (input : JanitorOrderReconciliationInput) :
    JanitorOrderReconciliation :=
  let unlisted := input.orderMap.enumeration.filter fun (clientId, localOrder) =>
    (exchangeByClientId input.exchangeOpenOrders clientId).isNone ∧ input.isUnlisted localOrder
  { orderMap := input.zombieOrders.foldl input.cancelZombie input.reconciledMap
    reconciledOrders := (input.orderMap.enumeration.map Prod.fst).filter fun clientId =>
      (exchangeByClientId input.exchangeOpenOrders clientId).isSome
    orphanExchangeOrders := input.orphans.map ExchangeOpenOrder.exchangeOrderId
    cancelledOrders := unlisted.map Prod.fst ++
      input.orphans.map ExchangeOpenOrder.exchangeOrderId ++ input.zombieOrders
    cancellationRequests :=
      input.orphans.map (fun remote =>
        ⟨remote.exchangeOrderId, .orphanExchangeOrder, some remote.instrumentCode⟩) ++
      input.zombieOrders.map fun clientId =>
        ⟨clientId, .zombieLocalOrder,
          (input.reconciledMap.get? clientId).map ManagedOrder.instrumentCode⟩ }

end Yevow.Engine
