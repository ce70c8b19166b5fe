import Tronkit.Json.BigNumber

/-!
# Requests to a node

The bodies of the wallet requests. Their fields are written in a fixed order, amounts as bare
digits of any length.
-/

namespace Tronkit

open Json

inductive Resource
  | bandwidth
  | energy
  deriving DecidableEq, Repr

namespace Resource

def name : Resource → String
  | bandwidth => "BANDWIDTH"
  | energy => "ENERGY"

def reader : Reader Resource :=
  Reader.choice [("BANDWIDTH", bandwidth), ("ENERGY", energy)]

def render (r : Resource) : List Char := Render.string r.name

end Resource

namespace Node

structure TransferRequest where
  owner : String
  recipient : String
  amount : Nat
  visible : Bool

def TransferRequest.render (r : TransferRequest) : List Char :=
  Render.object [("owner_address", Render.string r.owner),
    ("to_address", Render.string r.recipient), ("amount", Render.natural r.amount),
    ("visible", Render.bool r.visible)]

structure TriggerRequest where
  owner : String
  contract : String
  selector : String
  parameter : String
  visible : Bool
  feeLimit : Option Nat

def TriggerRequest.render (r : TriggerRequest) : List Char :=
  Render.object ([("owner_address", Render.string r.owner),
    ("contract_address", Render.string r.contract),
    ("function_selector", Render.string r.selector), ("parameter", Render.string r.parameter),
    ("visible", Render.bool r.visible)]
    ++ Render.optional "fee_limit" (r.feeLimit.map Render.natural))

structure DeployRequest where
  owner : String
  abi : String
  bytecode : String
  feeLimit : Nat
  parameter : String
  originEnergyLimit : Nat
  name : String
  userResourcePercent : Nat
  callValue : Nat

def DeployRequest.render (r : DeployRequest) : List Char :=
  Render.object [("owner_address", Render.string r.owner), ("abi", Render.string r.abi),
    ("bytecode", Render.string r.bytecode), ("fee_limit", Render.natural r.feeLimit),
    ("parameter", Render.string r.parameter),
    ("origin_energy_limit", Render.natural r.originEnergyLimit), ("name", Render.string r.name),
    ("consume_user_resource_percent", Render.natural r.userResourcePercent),
    ("call_value", Render.natural r.callValue)]

def hashRequest (hash : String) : List Char := Render.object [("value", Render.string hash)]

def accountRequest (address : String) : List Char :=
  Render.object [("address", Render.string address), ("visible", Render.bool true)]

structure StakeRequest where
  owner : String
  amount : Nat
  resource : Resource

def StakeRequest.renderFreeze (r : StakeRequest) : List Char :=
  Render.object [("owner_address", Render.string r.owner),
    ("frozen_balance", Render.natural r.amount), ("resource", r.resource.render)]

def StakeRequest.renderUnfreeze (r : StakeRequest) : List Char :=
  Render.object [("owner_address", Render.string r.owner),
    ("unfreeze_balance", Render.natural r.amount), ("resource", r.resource.render)]

def withdrawRequest (owner : String) : List Char :=
  Render.object [("owner_address", Render.string owner)]

structure DelegateRequest where
  owner : String
  receiver : String
  amount : Nat
  resource : Resource

def DelegateRequest.render (r : DelegateRequest) : List Char :=
  Render.object [("owner_address", Render.string r.owner),
    ("receiver_address", Render.string r.receiver), ("balance", Render.natural r.amount),
    ("resource", r.resource.render)]

end Node
end Tronkit
