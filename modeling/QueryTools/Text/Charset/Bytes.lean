import QueryTools.Text.CodeTable

/-!
# Character sets of bytes

Character sets in which every byte stands for one character or for none.  A set is written as its
names and the code points of its characters, in the order of the bytes; the replacement character
stands where a set has none.
-/

namespace QueryTools.Text

/-- A character set in which every byte stands for one character or for none. -/
structure ByteSet where
  names : List String
  chars : Array Char

/-- The character set that names and code points spell. -/
def ByteSet.ofTable (names codes : String) : ByteSet where
  names := (CodeTable.words names).map String.ofList
  chars := ((CodeTable.codes codes).map Char.ofNat).toArray

/-- The character that a byte stands for. -/
def ByteSet.char? (s : ByteSet) (byte : Nat) : Option Char :=
  (s.chars[byte]?).filter (· != '\ufffd')

/-- The character sets of bytes. -/
def byteSets : List ByteSet := [
  ("
    ascii 646 ansi_x3.4_1968 ansi_x3.4_1986 ansi_x3_4_1968 cp367 csascii ibm367 iso646_us
    iso_646.irv_1991 iso_ir_6 us us_ascii",
    "0-7f"),
  ("charmap",
    "0-ff"),
  ("cp037 037 csibm037 ebcdic_cp_ca ebcdic_cp_nl ebcdic_cp_us ebcdic_cp_wt ibm037 ibm039",
    "0-3 9c 9 86 7f 97 8d-8e b-13 9d 85 8 87 18-19 92 8f 1c-1f 80-84 a 17 1b 88-8c 5-7 90-91 16
    93-96 4 98-9b 14-15 9e 1a 20 a0 e2 e4 e0-e1 e3 e5 e7 f1 a2 2e 3c 28 2b 7c 26 e9-eb e8 ed-ef ec
    df 21 24 2a 29 3b ac 2d 2f c2 c4 c0-c1 c3 c5 c7 d1 a6 2c 25 5f 3e-3f f8 c9-cb c8 cd-cf cc 60
    3a 23 40 27 3d 22 d8 61-69 ab bb f0 fd-fe b1 b0 6a-72 aa ba e6 b8 c6 a4 b5 7e 73-7a a1 bf d0
    dd-de ae 5e a3 a5 b7 a9 a7 b6 bc-be 5b 5d af a8 b4 d7 7b 41-49 ad f4 f6 f2-f3 f5 7d 4a-52 b9
    fb-fc f9-fa ff 5c f7 53-5a b2 d4 d6 d2-d3 d5 30-39 b3 db-dc d9-da 9f"),
  ("cp1006",
    "0-a0 6f0-6f9 60c 61b ad 61f fe81 fe8d-fe8e fe8e-fe8f fe91 fb56 fb58 fe93 fe95 fe97 fb66 fb68
    fe99 fe9b fe9d fe9f fb7a fb7c fea1 fea3 fea5 fea7 fea9 fb84 feab fead fb8c feaf fb8a feb1 feb3
    feb5 feb7 feb9 febb febd febf fec1 fec5 fec9-fed1 fed3 fed5 fed7 fed9 fedb fb92 fb94 fedd
    fedf-fee1 fee3 fb9e fee5 fee7 fe85 feed fba6 fba8-fbaa fe80 fe89-fe8b fef1-fef3 fbb0 fbae
    fe7c-fe7d"),
  ("cp1026 1026 csibm1026 ibm1026",
    "0-3 9c 9 86 7f 97 8d-8e b-13 9d 85 8 87 18-19 92 8f 1c-1f 80-84 a 17 1b 88-8c 5-7 90-91 16
    93-96 4 98-9b 14-15 9e 1a 20 a0 e2 e4 e0-e1 e3 e5 7b f1 c7 2e 3c 28 2b 21 26 e9-eb e8 ed-ef ec
    df 11e 130 2a 29 3b 5e 2d 2f c2 c4 c0-c1 c3 c5 5b d1 15f 2c 25 5f 3e-3f f8 c9-cb c8 cd-cf cc
    131 3a d6 15e 27 3d dc d8 61-69 ab bb 7d 60 a6 b1 b0 6a-72 aa ba e6 b8 c6 a4 b5 f6 73-7a a1 bf
    5d 24 40 ae a2-a3 a5 b7 a9 a7 b6 bc-be ac 7c af a8 b4 d7 e7 41-49 ad f4 7e f2-f3 f5 11f 4a-52
    b9 fb 5c f9-fa ff fc f7 53-5a b2 d4 23 d2-d3 d5 30-39 b3 db 22 d9-da 9f"),
  ("cp1125 1125 cp866u ibm1125 ruscii",
    "0-7f 410-43f 2591-2593 2502 2524 2561-2562 2556 2555 2563 2551 2557 255d 255c 255b 2510 2514
    2534 252c 251c 2500 253c 255e-255f 255a 2554 2569 2566 2560 2550 256c 2567-2568 2564-2565 2559
    2558 2552-2553 256b 256a 2518 250c 2588 2584 258c 2590 2580 440-44f 401 451 490-491 404 454
    406 456 407 457 b7 221a 2116 a4 25a0 a0"),
  ("cp1140 1140 ibm1140",
    "0-3 9c 9 86 7f 97 8d-8e b-13 9d 85 8 87 18-19 92 8f 1c-1f 80-84 a 17 1b 88-8c 5-7 90-91 16
    93-96 4 98-9b 14-15 9e 1a 20 a0 e2 e4 e0-e1 e3 e5 e7 f1 a2 2e 3c 28 2b 7c 26 e9-eb e8 ed-ef ec
    df 21 24 2a 29 3b ac 2d 2f c2 c4 c0-c1 c3 c5 c7 d1 a6 2c 25 5f 3e-3f f8 c9-cb c8 cd-cf cc 60
    3a 23 40 27 3d 22 d8 61-69 ab bb f0 fd-fe b1 b0 6a-72 aa ba e6 b8 c6 20ac b5 7e 73-7a a1 bf d0
    dd-de ae 5e a3 a5 b7 a9 a7 b6 bc-be 5b 5d af a8 b4 d7 7b 41-49 ad f4 f6 f2-f3 f5 7d 4a-52 b9
    fb-fc f9-fa ff 5c f7 53-5a b2 d4 d6 d2-d3 d5 30-39 b3 db-dc d9-da 9f"),
  ("cp1250 1250 windows_1250",
    "0-7f 20ac fffd 201a fffd 201e 2026 2020-2021 fffd 2030 160 2039 15a 164 17d 179 fffd 2018-2019
    201c-201d 2022 2013-2014 fffd 2122 161 203a 15b 165 17e 17a a0 2c7 2d8 141 a4 104 a6-a9 15e
    ab-ae 17b b0-b1 2db 142 b4-b8 105 15f bb 13d 2dd 13e 17c 154 c1-c2 102 c4 139 106 c7 10c c9
    118 cb 11a cd-ce 10e 110 143 147 d3-d4 150 d6-d7 158 16e da 170 dc-dd 162 df 155 e1-e2 103 e4
    13a 107 e7 10d e9 119 eb 11b ed-ee 10f 111 144 148 f3-f4 151 f6-f7 159 16f fa 171 fc-fd 163
    2d9"),
  ("cp1251 1251 windows_1251",
    "0-7f 402-403 201a 453 201e 2026 2020-2021 20ac 2030 409 2039 40a 40c 40b 40f 452 2018-2019
    201c-201d 2022 2013-2014 fffd 2122 459 203a 45a 45c 45b 45f a0 40e 45e 408 a4 490 a6-a7 401 a9
    404 ab-ae 407 b0-b1 406 456 491 b5-b7 451 2116 454 bb 458 405 455 457 410-44f"),
  ("cp1252 1252 windows_1252",
    "0-7f 20ac fffd 201a 192 201e 2026 2020-2021 2c6 2030 160 2039 152 fffd 17d fffd fffd 2018-2019
    201c-201d 2022 2013-2014 2dc 2122 161 203a 153 fffd 17e 178 a0-ff"),
  ("cp1253 1253 windows_1253",
    "0-7f 20ac fffd 201a 192 201e 2026 2020-2021 fffd 2030 fffd 2039 fffd fffd fffd fffd fffd
    2018-2019 201c-201d 2022 2013-2014 fffd 2122 fffd 203a fffd fffd fffd fffd a0 385-386 a3-a9
    fffd ab-ae 2015 b0-b3 384 b5-b7 388-38a bb 38c bd 38e-3a1 fffd 3a3-3ce"),
  ("cp1254 1254 windows_1254",
    "0-7f 20ac fffd 201a 192 201e 2026 2020-2021 2c6 2030 160 2039 152 fffd fffd fffd fffd
    2018-2019 201c-201d 2022 2013-2014 2dc 2122 161 203a 153 fffd fffd 178 a0-cf 11e d1-dc 130 15e
    df-ef 11f f1-fc 131 15f ff"),
  ("cp1255 1255 windows_1255",
    "0-7f 20ac fffd 201a 192 201e 2026 2020-2021 2c6 2030 fffd 2039 fffd fffd fffd fffd fffd
    2018-2019 201c-201d 2022 2013-2014 2dc 2122 fffd 203a fffd fffd fffd fffd a0-a3 20aa a5-a9 d7
    ab-b9 f7 bb-bf 5b0-5b9 fffd 5bb-5c3 5f0-5f4 fffd fffd fffd fffd fffd fffd fffd 5d0-5ea fffd
    fffd 200e-200f"),
  ("cp1256 1256 windows_1256",
    "0-7f 20ac 67e 201a 192 201e 2026 2020-2021 2c6 2030 679 2039 152 686 698 688 6af 2018-2019
    201c-201d 2022 2013-2014 6a9 2122 691 203a 153 200c-200d 6ba a0 60c a2-a9 6be ab-b9 61b bb-be
    61f 6c1 621-636 d7 637-63a 640-643 e0 644 e2 645-648 e7-eb 649-64a ee-ef 64b-64e f4 64f-650 f7
    651 f9 652 fb-fc 200e-200f 6d2"),
  ("cp1257 1257 windows_1257",
    "0-7f 20ac fffd 201a fffd 201e 2026 2020-2021 fffd 2030 fffd 2039 fffd a8 2c7 b8 fffd 2018-2019
    201c-201d 2022 2013-2014 fffd 2122 fffd 203a fffd af 2db fffd a0 fffd a2-a4 fffd a6-a7 d8 a9
    156 ab-ae c6 b0-b7 f8 b9 157 bb-be e6 104 12e 100 106 c4-c5 118 112 10c c9 179 116 122 136 12a
    13b 160 143 145 d3 14c d5-d7 172 141 15a 16a dc 17b 17d df 105 12f 101 107 e4-e5 119 113 10d
    e9 17a 117 123 137 12b 13c 161 144 146 f3 14d f5-f7 173 142 15b 16b fc 17c 17e 2d9"),
  ("cp1258 1258 windows_1258",
    "0-7f 20ac fffd 201a 192 201e 2026 2020-2021 2c6 2030 fffd 2039 152 fffd fffd fffd fffd
    2018-2019 201c-201d 2022 2013-2014 2dc 2122 fffd 203a 153 fffd fffd 178 a0-c2 102 c4-cb 300
    cd-cf 110 d1 309 d3-d4 1a0 d6-dc 1af 303 df-e2 103 e4-eb 301 ed-ef 111 f1 323 f3-f4 1a1 f6-fc
    1b0 20ab ff"),
  ("cp273 273 csibm273 ibm273",
    "0-3 9c 9 86 7f 97 8d-8e b-13 9d 85 8 87 18-19 92 8f 1c-1f 80-84 a 17 1b 88-8c 5-7 90-91 16
    93-96 4 98-9b 14-15 9e 1a 20 a0 e2 7b e0-e1 e3 e5 e7 f1 c4 2e 3c 28 2b 21 26 e9-eb e8 ed-ef ec
    7e dc 24 2a 29 3b 5e 2d 2f c2 5b c0-c1 c3 c5 c7 d1 f6 2c 25 5f 3e-3f f8 c9-cb c8 cd-cf cc 60
    3a 23 a7 27 3d 22 d8 61-69 ab bb f0 fd-fe b1 b0 6a-72 aa ba e6 b8 c6 a4 b5 df 73-7a a1 bf d0
    dd-de ae a2-a3 a5 b7 a9 40 b6 bc-be ac 7c 203e a8 b4 d7 e4 41-49 ad f4 a6 f2-f3 f5 fc 4a-52 b9
    fb 7d f9-fa ff d6 f7 53-5a b2 d4 5c d2-d3 d5 30-39 b3 db 5d d9-da 9f"),
  ("cp424 424 csibm424 ebcdic_cp_he ibm424",
    "0-3 9c 9 86 7f 97 8d-8e b-13 9d 85 8 87 18-19 92 8f 1c-1f 80-84 a 17 1b 88-8c 5-7 90-91 16
    93-96 4 98-9b 14-15 9e 1a 20 5d0-5d8 a2 2e 3c 28 2b 7c 26 5d9-5e1 21 24 2a 29 3b ac 2d 2f
    5e2-5e9 a6 2c 25 5f 3e-3f fffd 5ea fffd fffd a0 fffd fffd fffd 2017 60 3a 23 40 27 3d 22 fffd
    61-69 ab bb fffd fffd fffd b1 b0 6a-72 fffd fffd fffd b8 fffd a4 b5 7e 73-7a fffd fffd fffd
    fffd fffd ae 5e a3 a5 b7 a9 a7 b6 bc-be 5b 5d af a8 b4 d7 7b 41-49 ad fffd fffd fffd fffd fffd
    7d 4a-52 b9 fffd fffd fffd fffd fffd 5c f7 53-5a b2 fffd fffd fffd fffd fffd 30-39 b3 fffd
    fffd fffd fffd 9f"),
  ("cp437 437 cspc8codepage437 ibm437",
    "0-7f c7 fc e9 e2 e4 e0 e5 e7 ea-eb e8 ef ee ec c4-c5 c9 e6 c6 f4 f6 f2 fb f9 ff d6 dc a2-a3 a5
    20a7 192 e1 ed f3 fa f1 d1 aa ba bf 2310 ac bd bc a1 ab bb 2591-2593 2502 2524 2561-2562 2556
    2555 2563 2551 2557 255d 255c 255b 2510 2514 2534 252c 251c 2500 253c 255e-255f 255a 2554 2569
    2566 2560 2550 256c 2567-2568 2564-2565 2559 2558 2552-2553 256b 256a 2518 250c 2588 2584 258c
    2590 2580 3b1 df 393 3c0 3a3 3c3 b5 3c4 3a6 398 3a9 3b4 221e 3c6 3b5 2229 2261 b1 2265 2264
    2320-2321 f7 2248 b0 2219 b7 221a 207f b2 25a0 a0"),
  ("cp500 500 csibm500 ebcdic_cp_be ebcdic_cp_ch ibm500",
    "0-3 9c 9 86 7f 97 8d-8e b-13 9d 85 8 87 18-19 92 8f 1c-1f 80-84 a 17 1b 88-8c 5-7 90-91 16
    93-96 4 98-9b 14-15 9e 1a 20 a0 e2 e4 e0-e1 e3 e5 e7 f1 5b 2e 3c 28 2b 21 26 e9-eb e8 ed-ef ec
    df 5d 24 2a 29 3b 5e 2d 2f c2 c4 c0-c1 c3 c5 c7 d1 a6 2c 25 5f 3e-3f f8 c9-cb c8 cd-cf cc 60
    3a 23 40 27 3d 22 d8 61-69 ab bb f0 fd-fe b1 b0 6a-72 aa ba e6 b8 c6 a4 b5 7e 73-7a a1 bf d0
    dd-de ae a2-a3 a5 b7 a9 a7 b6 bc-be ac 7c af a8 b4 d7 7b 41-49 ad f4 f6 f2-f3 f5 7d 4a-52 b9
    fb-fc f9-fa ff 5c f7 53-5a b2 d4 d6 d2-d3 d5 30-39 b3 db-dc d9-da 9f"),
  ("cp720",
    "0-81 e9 e2 84 e0 86 e7 ea-eb e8 ef ee 8d-90 651-652 f4 a4 640 fb f9 621-624 a3 625-635 ab bb
    2591-2593 2502 2524 2561-2562 2556 2555 2563 2551 2557 255d 255c 255b 2510 2514 2534 252c 251c
    2500 253c 255e-255f 255a 2554 2569 2566 2560 2550 256c 2567-2568 2564-2565 2559 2558 2552-2553
    256b 256a 2518 250c 2588 2584 258c 2590 2580 636-63a 641 b5 642-64a 2261 64b-650 2248 b0 2219
    b7 221a 207f b2 25a0 a0"),
  ("cp737",
    "0-7f 391-3a1 3a3-3a9 3b1-3c1 3c3 3c2 3c4-3c8 2591-2593 2502 2524 2561-2562 2556 2555 2563 2551
    2557 255d 255c 255b 2510 2514 2534 252c 251c 2500 253c 255e-255f 255a 2554 2569 2566 2560 2550
    256c 2567-2568 2564-2565 2559 2558 2552-2553 256b 256a 2518 250c 2588 2584 258c 2590 2580 3c9
    3ac-3ae 3ca 3af 3cc-3cd 3cb 3ce 386 388-38a 38c 38e-38f b1 2265 2264 3aa-3ab f7 2248 b0 2219
    b7 221a 207f b2 25a0 a0"),
  ("cp775 775 cspc775baltic ibm775",
    "0-7f 106 fc e9 101 e4 123 e5 107 142 113 156-157 12b 179 c4-c5 c9 e6 c6 14d f6 122 a2 15a-15b
    d6 dc f8 a3 d8 d7 a4 100 12a f3 17b-17c 17a 201d a6 a9 ae ac bd bc 141 ab bb 2591-2593 2502
    2524 104 10c 118 116 2563 2551 2557 255d 12e 160 2510 2514 2534 252c 251c 2500 253c 172 16a
    255a 2554 2569 2566 2560 2550 256c 17d 105 10d 119 117 12f 161 173 16b 17e 2518 250c 2588 2584
    258c 2590 2580 d3 df 14c 143 f5 d5 b5 144 136-137 13b-13c 146 112 145 2019 ad b1 201c be b6 a7
    f7 201e b0 2219 b7 b9 b3 b2 25a0 a0"),
  ("cp850 850 cspc850multilingual ibm850",
    "0-7f c7 fc e9 e2 e4 e0 e5 e7 ea-eb e8 ef ee ec c4-c5 c9 e6 c6 f4 f6 f2 fb f9 ff d6 dc f8 a3 d8
    d7 192 e1 ed f3 fa f1 d1 aa ba bf ae ac bd bc a1 ab bb 2591-2593 2502 2524 c1-c2 c0 a9 2563
    2551 2557 255d a2 a5 2510 2514 2534 252c 251c 2500 253c e3 c3 255a 2554 2569 2566 2560 2550
    256c a4 f0 d0 ca-cb c8 131 cd-cf 2518 250c 2588 2584 a6 cc 2580 d3 df d4 d2 f5 d5 b5 fe de
    da-db d9 fd dd af b4 ad b1 2017 be b6 a7 f7 b8 b0 a8 b7 b9 b3 b2 25a0 a0"),
  ("cp852 852 cspcp852 ibm852",
    "0-7f c7 fc e9 e2 e4 16f 107 e7 142 eb 150-151 ee 179 c4 106 c9 139-13a f4 f6 13d-13e 15a-15b
    d6 dc 164-165 141 d7 10d e1 ed f3 fa 104-105 17d-17e 118-119 ac 17a 10c 15f ab bb 2591-2593
    2502 2524 c1-c2 11a 15e 2563 2551 2557 255d 17b-17c 2510 2514 2534 252c 251c 2500 253c 102-103
    255a 2554 2569 2566 2560 2550 256c a4 111 110 10e cb 10f 147 cd-ce 11b 2518 250c 2588 2584 162
    16e 2580 d3 df d4 143-144 148 160-161 154 da 155 170 fd dd 163 b4 ad 2dd 2db 2c7 2d8 a7 f7 b8
    b0 a8 2d9 171 158-159 25a0 a0"),
  ("cp855 855 csibm855 ibm855",
    "0-7f 452 402 453 403 451 401 454 404 455 405 456 406 457 407 458 408 459 409 45a 40a 45b 40b
    45c 40c 45e 40e 45f 40f 44e 42e 44a 42a 430 410 431 411 446 426 434 414 435 415 444 424 433
    413 ab bb 2591-2593 2502 2524 445 425 438 418 2563 2551 2557 255d 439 419 2510 2514 2534 252c
    251c 2500 253c 43a 41a 255a 2554 2569 2566 2560 2550 256c a4 43b 41b 43c 41c 43d 41d 43e 41e
    43f 2518 250c 2588 2584 41f 44f 2580 42f 440 420 441 421 442 422 443 423 436 416 432 412 44c
    42c 2116 ad 44b 42b 437 417 448 428 44d 42d 449 429 447 427 a7 25a0 a0"),
  ("cp856",
    "0-7f 5d0-5ea fffd a3 fffd d7 fffd fffd fffd fffd fffd fffd fffd fffd fffd fffd ae ac bd bc
    fffd ab bb 2591-2593 2502 2524 fffd fffd fffd a9 2563 2551 2557 255d a2 a5 2510 2514 2534 252c
    251c 2500 253c fffd fffd 255a 2554 2569 2566 2560 2550 256c a4 fffd fffd fffd fffd fffd fffd
    fffd fffd fffd 2518 250c 2588 2584 a6 fffd 2580 fffd fffd fffd fffd fffd fffd b5 fffd fffd
    fffd fffd fffd fffd fffd af b4 ad b1 2017 be b6 a7 f7 b8 b0 a8 b7 b9 b3 b2 25a0 a0"),
  ("cp857 857 csibm857 ibm857",
    "0-7f c7 fc e9 e2 e4 e0 e5 e7 ea-eb e8 ef ee 131 c4-c5 c9 e6 c6 f4 f6 f2 fb f9 130 d6 dc f8 a3
    d8 15e-15f e1 ed f3 fa f1 d1 11e-11f bf ae ac bd bc a1 ab bb 2591-2593 2502 2524 c1-c2 c0 a9
    2563 2551 2557 255d a2 a5 2510 2514 2534 252c 251c 2500 253c e3 c3 255a 2554 2569 2566 2560
    2550 256c a4 ba aa ca-cb c8 fffd cd-cf 2518 250c 2588 2584 a6 cc 2580 d3 df d4 d2 f5 d5 b5
    fffd d7 da-db d9 ec ff af b4 ad b1 fffd be b6 a7 f7 b8 b0 a8 b7 b9 b3 b2 25a0 a0"),
  ("cp858 858 csibm858 ibm858",
    "0-7f c7 fc e9 e2 e4 e0 e5 e7 ea-eb e8 ef ee ec c4-c5 c9 e6 c6 f4 f6 f2 fb f9 ff d6 dc f8 a3 d8
    d7 192 e1 ed f3 fa f1 d1 aa ba bf ae ac bd bc a1 ab bb 2591-2593 2502 2524 c1-c2 c0 a9 2563
    2551 2557 255d a2 a5 2510 2514 2534 252c 251c 2500 253c e3 c3 255a 2554 2569 2566 2560 2550
    256c a4 f0 d0 ca-cb c8 20ac cd-cf 2518 250c 2588 2584 a6 cc 2580 d3 df d4 d2 f5 d5 b5 fe de
    da-db d9 fd dd af b4 ad b1 2017 be b6 a7 f7 b8 b0 a8 b7 b9 b3 b2 25a0 a0"),
  ("cp860 860 csibm860 ibm860",
    "0-7f c7 fc e9 e2-e3 e0 c1 e7 ea ca e8 cd d4 ec c3 c2 c9 c0 c8 f4-f5 f2 da f9 cc d5 dc a2-a3 d9
    20a7 d3 e1 ed f3 fa f1 d1 aa ba bf d2 ac bd bc a1 ab bb 2591-2593 2502 2524 2561-2562 2556
    2555 2563 2551 2557 255d 255c 255b 2510 2514 2534 252c 251c 2500 253c 255e-255f 255a 2554 2569
    2566 2560 2550 256c 2567-2568 2564-2565 2559 2558 2552-2553 256b 256a 2518 250c 2588 2584 258c
    2590 2580 3b1 df 393 3c0 3a3 3c3 b5 3c4 3a6 398 3a9 3b4 221e 3c6 3b5 2229 2261 b1 2265 2264
    2320-2321 f7 2248 b0 2219 b7 221a 207f b2 25a0 a0"),
  ("cp861 861 cp_is csibm861 ibm861",
    "0-7f c7 fc e9 e2 e4 e0 e5 e7 ea-eb e8 d0 f0 de c4-c5 c9 e6 c6 f4 f6 fe fb dd fd d6 dc f8 a3 d8
    20a7 192 e1 ed f3 fa c1 cd d3 da bf 2310 ac bd bc a1 ab bb 2591-2593 2502 2524 2561-2562 2556
    2555 2563 2551 2557 255d 255c 255b 2510 2514 2534 252c 251c 2500 253c 255e-255f 255a 2554 2569
    2566 2560 2550 256c 2567-2568 2564-2565 2559 2558 2552-2553 256b 256a 2518 250c 2588 2584 258c
    2590 2580 3b1 df 393 3c0 3a3 3c3 b5 3c4 3a6 398 3a9 3b4 221e 3c6 3b5 2229 2261 b1 2265 2264
    2320-2321 f7 2248 b0 2219 b7 221a 207f b2 25a0 a0"),
  ("cp862 862 cspc862latinhebrew ibm862",
    "0-7f 5d0-5ea a2-a3 a5 20a7 192 e1 ed f3 fa f1 d1 aa ba bf 2310 ac bd bc a1 ab bb 2591-2593
    2502 2524 2561-2562 2556 2555 2563 2551 2557 255d 255c 255b 2510 2514 2534 252c 251c 2500 253c
    255e-255f 255a 2554 2569 2566 2560 2550 256c 2567-2568 2564-2565 2559 2558 2552-2553 256b 256a
    2518 250c 2588 2584 258c 2590 2580 3b1 df 393 3c0 3a3 3c3 b5 3c4 3a6 398 3a9 3b4 221e 3c6 3b5
    2229 2261 b1 2265 2264 2320-2321 f7 2248 b0 2219 b7 221a 207f b2 25a0 a0"),
  ("cp863 863 csibm863 ibm863",
    "0-7f c7 fc e9 e2 c2 e0 b6 e7 ea-eb e8 ef ee 2017 c0 a7 c9 c8 ca f4 cb cf fb f9 a4 d4 dc a2-a3
    d9 db 192 a6 b4 f3 fa a8 b8 b3 af ce 2310 ac bd bc be ab bb 2591-2593 2502 2524 2561-2562 2556
    2555 2563 2551 2557 255d 255c 255b 2510 2514 2534 252c 251c 2500 253c 255e-255f 255a 2554 2569
    2566 2560 2550 256c 2567-2568 2564-2565 2559 2558 2552-2553 256b 256a 2518 250c 2588 2584 258c
    2590 2580 3b1 df 393 3c0 3a3 3c3 b5 3c4 3a6 398 3a9 3b4 221e 3c6 3b5 2229 2261 b1 2265 2264
    2320-2321 f7 2248 b0 2219 b7 221a 207f b2 25a0 a0"),
  ("cp864 864 csibm864 ibm864",
    "0-24 66a 26-7f b0 b7 2219-221a 2592 2500 2502 253c 2524 252c 251c 2534 2510 250c 2514 2518 3b2
    221e 3c6 b1 bd bc 2248 ab bb fef7-fef8 fffd fffd fefb-fefc fffd a0 ad fe82 a3-a4 fe84 fffd
    fffd fe8e-fe8f fe95 fe99 60c fe9d fea1 fea5 660-669 fed1 61b feb1 feb5 feb9 61f a2 fe80-fe81
    fe83 fe85 feca fe8b fe8d fe91 fe93 fe97 fe9b fe9f fea3 fea7 fea9 feab fead feaf feb3 feb7 febb
    febf fec1 fec5 fecb fecf a6 ac f7 d7 fec9 640 fed3 fed7 fedb fedf fee3 fee7 feeb feed feef
    fef3 febd fecc fece fecd fee1 fe7d 651 fee5 fee9 feec fef0 fef2 fed0 fed5 fef5-fef6 fedd fed9
    fef1 25a0"),
  ("cp865 865 csibm865 ibm865",
    "0-7f c7 fc e9 e2 e4 e0 e5 e7 ea-eb e8 ef ee ec c4-c5 c9 e6 c6 f4 f6 f2 fb f9 ff d6 dc f8 a3 d8
    20a7 192 e1 ed f3 fa f1 d1 aa ba bf 2310 ac bd bc a1 ab a4 2591-2593 2502 2524 2561-2562 2556
    2555 2563 2551 2557 255d 255c 255b 2510 2514 2534 252c 251c 2500 253c 255e-255f 255a 2554 2569
    2566 2560 2550 256c 2567-2568 2564-2565 2559 2558 2552-2553 256b 256a 2518 250c 2588 2584 258c
    2590 2580 3b1 df 393 3c0 3a3 3c3 b5 3c4 3a6 398 3a9 3b4 221e 3c6 3b5 2229 2261 b1 2265 2264
    2320-2321 f7 2248 b0 2219 b7 221a 207f b2 25a0 a0"),
  ("cp866 866 csibm866 ibm866",
    "0-7f 410-43f 2591-2593 2502 2524 2561-2562 2556 2555 2563 2551 2557 255d 255c 255b 2510 2514
    2534 252c 251c 2500 253c 255e-255f 255a 2554 2569 2566 2560 2550 256c 2567-2568 2564-2565 2559
    2558 2552-2553 256b 256a 2518 250c 2588 2584 258c 2590 2580 440-44f 401 451 404 454 407 457
    40e 45e b0 2219 b7 221a 2116 a4 25a0 a0"),
  ("cp869 869 cp_gr csibm869 ibm869",
    "0-7f fffd fffd fffd fffd fffd fffd 386 fffd b7 ac a6 2018-2019 388 2015 389-38a 3aa 38c fffd
    fffd 38e 3ab a9 38f b2-b3 3ac a3 3ad-3af 3ca 390 3cc-3cd 391-397 bd 398-399 ab bb 2591-2593
    2502 2524 39a-39d 2563 2551 2557 255d 39e-39f 2510 2514 2534 252c 251c 2500 253c 3a0-3a1 255a
    2554 2569 2566 2560 2550 256c 3a3-3a9 3b1-3b3 2518 250c 2588 2584 3b4-3b5 2580 3b6-3c1 3c3 3c2
    3c4 384 ad b1 3c5-3c7 a7 3c8 385 b0 a8 3c9 3cb 3b0 3ce 25a0 a0"),
  ("cp874",
    "0-7f 20ac fffd fffd fffd fffd 2026 fffd fffd fffd fffd fffd fffd fffd fffd fffd fffd fffd
    2018-2019 201c-201d 2022 2013-2014 fffd fffd fffd fffd fffd fffd fffd fffd a0 e01-e3a fffd
    fffd fffd fffd e3f-e5b"),
  ("cp875",
    "0-3 9c 9 86 7f 97 8d-8e b-13 9d 85 8 87 18-19 92 8f 1c-1f 80-84 a 17 1b 88-8c 5-7 90-91 16
    93-96 4 98-9b 14-15 9e 1a 20 391-399 5b 2e 3c 28 2b 21 26 39a-3a1 3a3 5d 24 2a 29 3b 5e 2d 2f
    3a4-3ab 7c 2c 25 5f 3e-3f a8 386 388-389 a0 38a 38c 38e-38f 60 3a 23 40 27 3d 22 385 61-69
    3b1-3b6 b0 6a-72 3b7-3bc b4 7e 73-7a 3bd-3c1 3c3 a3 3ac-3ae 3ca 3af 3cc-3cd 3cb 3ce 3c2
    3c4-3c8 7b 41-49 ad 3c9 390 3b0 2018 2015 7d 4a-52 b1 bd 1a 387 2019 a6 5c 1a 53-5a b2 a7 1a
    1a ab-ac 30-39 b3 a9 1a 1a bb 9f"),
  ("hp_roman8 cp1051 csHPRoman8 ibm1051 r8 roman8",
    "0-a0 c0 c2 c8 ca-cb ce-cf b4 2cb 2c6 a8 2dc d9 db 20a4 af dd fd b0 c7 e7 d1 f1 a1 bf a4 a3 a5
    a7 192 a2 e2 ea f4 fb e1 e9 f3 fa e0 e8 f2 f9 e4 eb f6 fc c5 ee d8 c6 e5 ed f8 e6 c4 ec d6 dc
    c9 ef df d4 c1 c3 e3 d0 f0 cd cc d3 d2 d5 f5 160-161 da 178 ff de fe b7 b5-b6 be 2014 bc-bd aa
    ba ab 25a0 bb b1"),
  ("iso8859_1",
    "0-ff"),
  ("iso8859_10 csisolatin6 iso_8859_10 iso_8859_10_1992 iso_ir_157 l6 latin6",
    "0-a0 104 112 122 12a 128 136 a7 13b 110 160 166 17d ad 16a 14a b0 105 113 123 12b 129 137 b7
    13c 111 161 167 17e 2015 16b 14b 100 c1-c6 12e 10c c9 118 cb 116 cd-d0 145 14c d3-d6 168 d8
    172 da-df 101 e1-e6 12f 10d e9 119 eb 117 ed-f0 146 14d f3-f6 169 f8 173 fa-fe 138"),
  ("iso8859_11 iso_8859_11 iso_8859_11_2001 thai",
    "0-a0 e01-e3a fffd fffd fffd fffd e3f-e5b"),
  ("iso8859_13 iso_8859_13 l7 latin7",
    "0-a0 201d a2-a4 201e a6-a7 d8 a9 156 ab-ae c6 b0-b3 201c b5-b7 f8 b9 157 bb-be e6 104 12e 100
    106 c4-c5 118 112 10c c9 179 116 122 136 12a 13b 160 143 145 d3 14c d5-d7 172 141 15a 16a dc
    17b 17d df 105 12f 101 107 e4-e5 119 113 10d e9 17a 117 123 137 12b 13c 161 144 146 f3 14d
    f5-f7 173 142 15b 16b fc 17c 17e 2019"),
  ("iso8859_14 iso_8859_14 iso_8859_14_1998 iso_celtic iso_ir_199 l8 latin8",
    "0-a0 1e02-1e03 a3 10a-10b 1e0a a7 1e80 a9 1e82 1e0b 1ef2 ad-ae 178 1e1e-1e1f 120-121 1e40-1e41
    b6 1e56 1e81 1e57 1e83 1e60 1ef3 1e84-1e85 1e61 c0-cf 174 d1-d6 1e6a d8-dd 176 df-ef 175 f1-f6
    1e6b f8-fd 177 ff"),
  ("iso8859_15 iso_8859_15 l9 latin9",
    "0-a3 20ac a5 160 a7 161 a9-b3 17d b5-b7 17e b9-bb 152-153 178 bf-ff"),
  ("iso8859_16 iso_8859_16 iso_8859_16_2001 iso_ir_226 l10 latin10",
    "0-a0 104-105 141 20ac 201e 160 a7 161 a9 218 ab 179 ad 17a-17b b0-b1 10c 142 17d 201d b6-b7
    17e 10d 219 bb 152-153 178 17c c0-c2 102 c4 106 c6-cf 110 143 d2-d4 150 d6 15a 170 d9-dc 118
    21a df-e2 103 e4 107 e6-ef 111 144 f2-f4 151 f6 15b 171 f9-fc 119 21b ff"),
  ("iso8859_2 csisolatin2 iso_8859_2 iso_8859_2_1987 iso_ir_101 l2 latin2",
    "0-a0 104 2d8 141 a4 13d 15a a7-a8 160 15e 164 179 ad 17d 17b b0 105 2db 142 b4 13e 15b 2c7 b8
    161 15f 165 17a 2dd 17e 17c 154 c1-c2 102 c4 139 106 c7 10c c9 118 cb 11a cd-ce 10e 110 143
    147 d3-d4 150 d6-d7 158 16e da 170 dc-dd 162 df 155 e1-e2 103 e4 13a 107 e7 10d e9 119 eb 11b
    ed-ee 10f 111 144 148 f3-f4 151 f6-f7 159 16f fa 171 fc-fd 163 2d9"),
  ("iso8859_3 csisolatin3 iso_8859_3 iso_8859_3_1988 iso_ir_109 l3 latin3",
    "0-a0 126 2d8 a3-a4 fffd 124 a7-a8 130 15e 11e 134 ad fffd 17b b0 127 b2-b5 125 b7-b8 131 15f
    11f 135 bd fffd 17c c0-c2 fffd c4 10a 108 c7-cf fffd d1-d4 120 d6-d7 11c d9-dc 16c 15c df-e2
    fffd e4 10b 109 e7-ef fffd f1-f4 121 f6-f7 11d f9-fc 16d 15d 2d9"),
  ("iso8859_4 csisolatin4 iso_8859_4 iso_8859_4_1988 iso_ir_110 l4 latin4",
    "0-a0 104 138 156 a4 128 13b a7-a8 160 112 122 166 ad 17d af-b0 105 2db 157 b4 129 13c 2c7 b8
    161 113 123 167 14a 17e 14b 100 c1-c6 12e 10c c9 118 cb 116 cd-ce 12a 110 145 14c 136 d4-d8
    172 da-dc 168 16a df 101 e1-e6 12f 10d e9 119 eb 117 ed-ee 12b 111 146 14d 137 f4-f8 173 fa-fc
    169 16b 2d9"),
  ("iso8859_5 csisolatincyrillic cyrillic iso_8859_5 iso_8859_5_1988 iso_ir_144",
    "0-a0 401-40c ad 40e-44f 2116 451-45c a7 45e-45f"),
  ("iso8859_6 arabic asmo_708 csisolatinarabic ecma_114 iso_8859_6 iso_8859_6_1987 iso_ir_127",
    "0-a0 fffd fffd fffd a4 fffd fffd fffd fffd fffd fffd fffd 60c ad fffd fffd fffd fffd fffd fffd
    fffd fffd fffd fffd fffd fffd fffd 61b fffd fffd fffd 61f fffd 621-63a fffd fffd fffd fffd
    fffd 640-652"),
  ("
    iso8859_7 csisolatingreek ecma_118 elot_928 greek greek8 iso_8859_7 iso_8859_7_1987 iso_ir_126",
    "0-a0 2018-2019 a3 20ac 20af a6-a9 37a ab-ad fffd 2015 b0-b3 384-386 b7 388-38a bb 38c bd
    38e-3a1 fffd 3a3-3ce"),
  ("iso8859_8 csisolatinhebrew hebrew iso_8859_8 iso_8859_8_1988 iso_ir_138",
    "0-a0 fffd a2-a9 d7 ab-b9 f7 bb-be fffd fffd fffd fffd fffd fffd fffd fffd fffd fffd fffd fffd
    fffd fffd fffd fffd fffd fffd fffd fffd fffd fffd fffd fffd fffd fffd fffd fffd fffd fffd fffd
    fffd 2017 5d0-5ea fffd fffd 200e-200f"),
  ("iso8859_9 csisolatin5 iso_8859_9 iso_8859_9_1989 iso_ir_148 l5 latin5",
    "0-cf 11e d1-dc 130 15e df-ef 11f f1-fc 131 15f ff"),
  ("koi8_r cskoi8r",
    "0-7f 2500 2502 250c 2510 2514 2518 251c 2524 252c 2534 253c 2580 2584 2588 258c 2590-2593 2320
    25a0 2219-221a 2248 2264-2265 a0 2321 b0 b2 b7 f7 2550-2552 451 2553-2561 401 2562-256c a9 44e
    430-431 446 434-435 444 433 445 438-43f 44f 440-443 436 432 44c 44b 437 448 44d 449 447 44a
    42e 410-411 426 414-415 424 413 425 418-41f 42f 420-423 416 412 42c 42b 417 428 42d 429 427
    42a"),
  ("koi8_t",
    "0-7f 49b 493 201a 492 201e 2026 2020-2021 fffd 2030 4b3 2039 4b2 4b7 4b6 fffd 49a 2018-2019
    201c-201d 2022 2013-2014 fffd 2122 fffd 203a fffd fffd fffd fffd fffd 4ef 4ee 451 a4 4e3 a6-a7
    fffd fffd fffd ab-ae fffd b0-b2 401 fffd 4e2 b6-b7 fffd 2116 fffd bb fffd fffd fffd a9 44e
    430-431 446 434-435 444 433 445 438-43f 44f 440-443 436 432 44c 44b 437 448 44d 449 447 44a
    42e 410-411 426 414-415 424 413 425 418-41f 42f 420-423 416 412 42c 42b 417 428 42d 429 427
    42a"),
  ("koi8_u",
    "0-7f 2500 2502 250c 2510 2514 2518 251c 2524 252c 2534 253c 2580 2584 2588 258c 2590-2593 2320
    25a0 2219-221a 2248 2264-2265 a0 2321 b0 b2 b7 f7 2550-2552 451 454 2554 456-457 2557-255b 491
    255d-2561 401 404 2563 406-407 2566-256a 490 256c a9 44e 430-431 446 434-435 444 433 445
    438-43f 44f 440-443 436 432 44c 44b 437 448 44d 449 447 44a 42e 410-411 426 414-415 424 413
    425 418-41f 42f 420-423 416 412 42c 42b 417 428 42d 429 427 42a"),
  ("kz1048 kz_1048 rk1048 strk1048_2002",
    "0-7f 402-403 201a 453 201e 2026 2020-2021 20ac 2030 409 2039 40a 49a 4ba 40f 452 2018-2019
    201c-201d 2022 2013-2014 fffd 2122 459 203a 45a 49b 4bb 45f a0 4b0-4b1 4d8 a4 4e8 a6-a7 401 a9
    492 ab-ae 4ae b0-b1 406 456 4e9 b5-b7 451 2116 493 bb 4d9 4a2-4a3 4af 410-44f"),
  ("
    latin_1 8859 cp819 csisolatin1 ibm819 iso8859 iso8859_1 iso_8859_1 iso_8859_1_1987 iso_ir_100
    l1 latin latin1",
    "0-ff"),
  ("mac_arabic",
    "0-7f c4 a0 c7 c9 d1 d6 dc e1 e0 e2 e4 6ba ab e7 e9 e8 ea-eb ed 2026 ee-ef f1 f3 bb f4 f6-f7 fa
    f9 fb-fc 20-24 66a 26-2b 60c 2d-2f 660-669 3a 61b 3c-3e 61f 274a 621-63a 5b-5f 640-652 67e 679
    686 6d5 6a4 6af 688 691 7b-7d 698 6d2"),
  ("mac_croatian",
    "0-7f c4-c5 c7 c9 d1 d6 dc e1 e0 e2 e4 e3 e5 e7 e9 e8 ea-eb ed ec ee-ef f1 f3 f2 f4 f6 f5 fa f9
    fb-fc 2020 b0 a2-a3 a7 2022 b6 df ae 160 2122 b4 a8 2260 17d d8 221e b1 2264-2265 2206 b5 2202
    2211 220f 161 222b aa ba 3a9 17e f8 bf a1 ac 221a 192 2248 106 ab 10c 2026 a0 c0 c3 d5 152-153
    110 2014 201c-201d 2018-2019 f7 25ca f8ff a9 2044 20ac 2039-203a c6 bb 2013 b7 201a 201e 2030
    c2 107 c1 10d c8 cd-cf cc d3-d4 111 d2 da-db d9 131 2c6 2dc af 3c0 cb 2da b8 ca e6 2c7"),
  ("mac_cyrillic maccyrillic",
    "0-7f 410-42f 2020 b0 490 a3 a7 2022 b6 406 ae a9 2122 402 452 2260 403 453 221e b1 2264-2265
    456 b5 491 408 404 454 407 457 409 459 40a 45a 458 405 ac 221a 192 2248 2206 ab bb 2026 a0 40b
    45b 40c 45c 455 2013-2014 201c-201d 2018-2019 f7 201e 40e 45e 40f 45f 2116 401 451 44f 430-44e
    20ac"),
  ("mac_farsi",
    "0-7f c4 a0 c7 c9 d1 d6 dc e1 e0 e2 e4 6ba ab e7 e9 e8 ea-eb ed 2026 ee-ef f1 f3 bb f4 f6-f7 fa
    f9 fb-fc 20-24 66a 26-2b 60c 2d-2f 6f0-6f9 3a 61b 3c-3e 61f 274a 621-63a 5b-5f 640-652 67e 679
    686 6d5 6a4 6af 688 691 7b-7d 698 6d2"),
  ("mac_greek macgreek",
    "0-7f c4 b9 b2 c9 b3 d6 dc 385 e0 e2 e4 384 a8 e7 e9 e8 ea-eb a3 2122 ee-ef 2022 bd 2030 f4 f6
    a6 20ac f9 fb-fc 2020 393-394 398 39b 39e 3a0 df ae a9 3a3 3aa a7 2260 b0 b7 391 b1 2264-2265
    a5 392 395-397 399-39a 39c 3a6 3ab 3a8-3a9 3ac 39d ac 39f 3a1 2248 3a4 ab bb 2026 a0 3a5 3a7
    386 388 153 2013 2015 201c-201d 2018-2019 f7 389-38a 38c 38e 3ad-3af 3cc 38f 3cd 3b1-3b2 3c8
    3b4-3b5 3c6 3b3 3b7 3b9 3be 3ba-3bd 3bf-3c0 3ce 3c1 3c3-3c4 3b8 3c9 3c2 3c7 3c5 3b6 3ca-3cb
    390 3b0 ad"),
  ("mac_iceland maciceland",
    "0-7f c4-c5 c7 c9 d1 d6 dc e1 e0 e2 e4 e3 e5 e7 e9 e8 ea-eb ed ec ee-ef f1 f3 f2 f4 f6 f5 fa f9
    fb-fc dd b0 a2-a3 a7 2022 b6 df ae a9 2122 b4 a8 2260 c6 d8 221e b1 2264-2265 a5 b5 2202 2211
    220f 3c0 222b aa ba 3a9 e6 f8 bf a1 ac 221a 192 2248 2206 ab bb 2026 a0 c0 c3 d5 152-153
    2013-2014 201c-201d 2018-2019 f7 25ca ff 178 2044 20ac d0 f0 de fe fd b7 201a 201e 2030 c2 ca
    c1 cb c8 cd-cf cc d3-d4 f8ff d2 da-db d9 131 2c6 2dc af 2d8-2da b8 2dd 2db 2c7"),
  ("mac_latin2 mac_centeuro maccentraleurope maclatin2",
    "0-7f c4 100-101 c9 104 d6 dc e1 105 10c e4 10d 106-107 e9 179-17a 10e ed 10f 112-113 116 f3
    117 f4 f6 f5 fa 11a-11b fc 2020 b0 118 a3 a7 2022 b6 df ae a9 2122 119 a8 2260 123 12e-12f 12a
    2264-2265 12b 136 2202 2211 142 13b-13e 139-13a 145-146 143 ac 221a 144 147 2206 ab bb 2026 a0
    148 150 d5 151 14c 2013-2014 201c-201d 2018-2019 f7 25ca 14d 154-155 158 2039-203a 159 156-157
    160 201a 201e 161 15a-15b c1 164-165 cd 17d-17e 16a d3-d4 16b 16e da 16f-173 dd fd 137 17b 141
    17c 122 2c7"),
  ("mac_roman macintosh macroman",
    "0-7f c4-c5 c7 c9 d1 d6 dc e1 e0 e2 e4 e3 e5 e7 e9 e8 ea-eb ed ec ee-ef f1 f3 f2 f4 f6 f5 fa f9
    fb-fc 2020 b0 a2-a3 a7 2022 b6 df ae a9 2122 b4 a8 2260 c6 d8 221e b1 2264-2265 a5 b5 2202
    2211 220f 3c0 222b aa ba 3a9 e6 f8 bf a1 ac 221a 192 2248 2206 ab bb 2026 a0 c0 c3 d5 152-153
    2013-2014 201c-201d 2018-2019 f7 25ca ff 178 2044 20ac 2039-203a fb01-fb02 2021 b7 201a 201e
    2030 c2 ca c1 cb c8 cd-cf cc d3-d4 f8ff d2 da-db d9 131 2c6 2dc af 2d8-2da b8 2dd 2db 2c7"),
  ("mac_romanian",
    "0-7f c4-c5 c7 c9 d1 d6 dc e1 e0 e2 e4 e3 e5 e7 e9 e8 ea-eb ed ec ee-ef f1 f3 f2 f4 f6 f5 fa f9
    fb-fc 2020 b0 a2-a3 a7 2022 b6 df ae a9 2122 b4 a8 2260 102 218 221e b1 2264-2265 a5 b5 2202
    2211 220f 3c0 222b aa ba 3a9 103 219 bf a1 ac 221a 192 2248 2206 ab bb 2026 a0 c0 c3 d5
    152-153 2013-2014 201c-201d 2018-2019 f7 25ca ff 178 2044 20ac 2039-203a 21a-21b 2021 b7 201a
    201e 2030 c2 ca c1 cb c8 cd-cf cc d3-d4 f8ff d2 da-db d9 131 2c6 2dc af 2d8-2da b8 2dd 2db 2c7"),
  ("mac_turkish macturkish",
    "0-7f c4-c5 c7 c9 d1 d6 dc e1 e0 e2 e4 e3 e5 e7 e9 e8 ea-eb ed ec ee-ef f1 f3 f2 f4 f6 f5 fa f9
    fb-fc 2020 b0 a2-a3 a7 2022 b6 df ae a9 2122 b4 a8 2260 c6 d8 221e b1 2264-2265 a5 b5 2202
    2211 220f 3c0 222b aa ba 3a9 e6 f8 bf a1 ac 221a 192 2248 2206 ab bb 2026 a0 c0 c3 d5 152-153
    2013-2014 201c-201d 2018-2019 f7 25ca ff 178 11e-11f 130-131 15e-15f 2021 b7 201a 201e 2030 c2
    ca c1 cb c8 cd-cf cc d3-d4 f8ff d2 da-db d9 f8a0 2c6 2dc af 2d8-2da b8 2dd 2db 2c7"),
  ("palmos",
    "0-7f 20ac 81 201a 192 201e 2026 2020-2021 2c6 2030 160 2039 152 2666 2663 2665 2660 2018-2019
    201c-201d 2022 2013-2014 2dc 2122 161 9b 153 9d-9e 178 a0-ff"),
  ("ptcp154 cp154 csptcp154 cyrillic_asian pt154",
    "0-7f 496 492 4ee 493 201e 2026 4b6 4ae 4b2 4af 4a0 4e2 4a2 49a 4ba 4b8 497 2018-2019 201c-201d
    2022 2013-2014 4b3 4b7 4a1 4e3 4a3 49b 4bb 4b9 a0 40e 45e 408 4e8 498 4b0 a7 401 a9 4d8 ab-ac
    4ef ae 49c b0 4b1 406 456 499 4e9 b6-b7 451 2116 4d9 bb 458 4aa-4ab 49d 410-44f"),
  ("tis_620 iso_ir_166 tis620 tis_620_0 tis_620_2529_0 tis_620_2529_1",
    "0-9f fffd e01-e3a fffd fffd fffd fffd e3f-e5b")].map
  fun (names, codes) => ByteSet.ofTable names codes

end QueryTools.Text
