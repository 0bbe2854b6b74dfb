import Docbase.Text.Table

/-!
# Case tables

What each character becomes in lower case, in upper case and under case folding, where that is
not the character itself. An entry is the distance of the character from the one before,
followed by the characters of its image, all in hexadecimal; `CharMap.decode` reads it.
-/

namespace Docbase.Text.CaseTable

/-- Lower case. -/
def lower : CharMap :=
  CharMap.decode "41.61 1.62 1.63 1.64 1.65 1.66 1.67 1.68 1.69 1.6a 1.6b 1.6c 1.6d 1.6e 1.6f 1.70 1.71 1.72
    1.73 1.74 1.75 1.76 1.77 1.78 1.79 1.7a 66.e0 1.e1 1.e2 1.e3 1.e4 1.e5 1.e6 1.e7 1.e8 1.e9
    1.ea 1.eb 1.ec 1.ed 1.ee 1.ef 1.f0 1.f1 1.f2 1.f3 1.f4 1.f5 1.f6 2.f8 1.f9 1.fa 1.fb 1.fc
    1.fd 1.fe 22.101 2.103 2.105 2.107 2.109 2.10b 2.10d 2.10f 2.111 2.113 2.115 2.117 2.119
    2.11b 2.11d 2.11f 2.121 2.123 2.125 2.127 2.129 2.12b 2.12d 2.12f 2.69.307 2.133 2.135
    2.137 3.13a 2.13c 2.13e 2.140 2.142 2.144 2.146 2.148 3.14b 2.14d 2.14f 2.151 2.153 2.155
    2.157 2.159 2.15b 2.15d 2.15f 2.161 2.163 2.165 2.167 2.169 2.16b 2.16d 2.16f 2.171 2.173
    2.175 2.177 2.ff 1.17a 2.17c 2.17e 4.253 1.183 2.185 2.254 1.188 2.256 1.257 1.18c 3.1dd
    1.259 1.25b 1.192 2.260 1.263 2.269 1.268 1.199 4.26f 1.272 2.275 1.1a1 2.1a3 2.1a5 2.280
    1.1a8 2.283 3.1ad 2.288 1.1b0 2.28a 1.28b 1.1b4 2.1b6 2.292 1.1b9 4.1bd 8.1c6 1.1c6 2.1c9
    1.1c9 2.1cc 1.1cc 2.1ce 2.1d0 2.1d2 2.1d4 2.1d6 2.1d8 2.1da 2.1dc 3.1df 2.1e1 2.1e3 2.1e5
    2.1e7 2.1e9 2.1eb 2.1ed 2.1ef 3.1f3 1.1f3 2.1f5 2.195 1.1bf 1.1f9 2.1fb 2.1fd 2.1ff 2.201
    2.203 2.205 2.207 2.209 2.20b 2.20d 2.20f 2.211 2.213 2.215 2.217 2.219 2.21b 2.21d 2.21f
    2.19e 2.223 2.225 2.227 2.229 2.22b 2.22d 2.22f 2.231 2.233 8.2c65 1.23c 2.19a 1.2c66 3.242
    2.180 1.289 1.28c 1.247 2.249 2.24b 2.24d 2.24f 122.371 2.373 4.377 9.3f3 7.3ac 2.3ad 1.3ae
    1.3af 2.3cc 2.3cd 1.3ce 2.3b1 1.3b2 1.3b3 1.3b4 1.3b5 1.3b6 1.3b7 1.3b8 1.3b9 1.3ba 1.3bb
    1.3bc 1.3bd 1.3be 1.3bf 1.3c0 1.3c1 2.3c3 1.3c4 1.3c5 1.3c6 1.3c7 1.3c8 1.3c9 1.3ca 1.3cb
    24.3d7 9.3d9 2.3db 2.3dd 2.3df 2.3e1 2.3e3 2.3e5 2.3e7 2.3e9 2.3eb 2.3ed 2.3ef 6.3b8 3.3f8
    2.3f2 1.3fb 3.37b 1.37c 1.37d 1.450 1.451 1.452 1.453 1.454 1.455 1.456 1.457 1.458 1.459
    1.45a 1.45b 1.45c 1.45d 1.45e 1.45f 1.430 1.431 1.432 1.433 1.434 1.435 1.436 1.437 1.438
    1.439 1.43a 1.43b 1.43c 1.43d 1.43e 1.43f 1.440 1.441 1.442 1.443 1.444 1.445 1.446 1.447
    1.448 1.449 1.44a 1.44b 1.44c 1.44d 1.44e 1.44f 31.461 2.463 2.465 2.467 2.469 2.46b 2.46d
    2.46f 2.471 2.473 2.475 2.477 2.479 2.47b 2.47d 2.47f 2.481 a.48b 2.48d 2.48f 2.491 2.493
    2.495 2.497 2.499 2.49b 2.49d 2.49f 2.4a1 2.4a3 2.4a5 2.4a7 2.4a9 2.4ab 2.4ad 2.4af 2.4b1
    2.4b3 2.4b5 2.4b7 2.4b9 2.4bb 2.4bd 2.4bf 2.4cf 1.4c2 2.4c4 2.4c6 2.4c8 2.4ca 2.4cc 2.4ce
    3.4d1 2.4d3 2.4d5 2.4d7 2.4d9 2.4db 2.4dd 2.4df 2.4e1 2.4e3 2.4e5 2.4e7 2.4e9 2.4eb 2.4ed
    2.4ef 2.4f1 2.4f3 2.4f5 2.4f7 2.4f9 2.4fb 2.4fd 2.4ff 2.501 2.503 2.505 2.507 2.509 2.50b
    2.50d 2.50f 2.511 2.513 2.515 2.517 2.519 2.51b 2.51d 2.51f 2.521 2.523 2.525 2.527 2.529
    2.52b 2.52d 2.52f 3.561 1.562 1.563 1.564 1.565 1.566 1.567 1.568 1.569 1.56a 1.56b 1.56c
    1.56d 1.56e 1.56f 1.570 1.571 1.572 1.573 1.574 1.575 1.576 1.577 1.578 1.579 1.57a 1.57b
    1.57c 1.57d 1.57e 1.57f 1.580 1.581 1.582 1.583 1.584 1.585 1.586 b4a.2d00 1.2d01 1.2d02
    1.2d03 1.2d04 1.2d05 1.2d06 1.2d07 1.2d08 1.2d09 1.2d0a 1.2d0b 1.2d0c 1.2d0d 1.2d0e 1.2d0f
    1.2d10 1.2d11 1.2d12 1.2d13 1.2d14 1.2d15 1.2d16 1.2d17 1.2d18 1.2d19 1.2d1a 1.2d1b 1.2d1c
    1.2d1d 1.2d1e 1.2d1f 1.2d20 1.2d21 1.2d22 1.2d23 1.2d24 1.2d25 2.2d27 6.2d2d 2d3.ab70
    1.ab71 1.ab72 1.ab73 1.ab74 1.ab75 1.ab76 1.ab77 1.ab78 1.ab79 1.ab7a 1.ab7b 1.ab7c 1.ab7d
    1.ab7e 1.ab7f 1.ab80 1.ab81 1.ab82 1.ab83 1.ab84 1.ab85 1.ab86 1.ab87 1.ab88 1.ab89 1.ab8a
    1.ab8b 1.ab8c 1.ab8d 1.ab8e 1.ab8f 1.ab90 1.ab91 1.ab92 1.ab93 1.ab94 1.ab95 1.ab96 1.ab97
    1.ab98 1.ab99 1.ab9a 1.ab9b 1.ab9c 1.ab9d 1.ab9e 1.ab9f 1.aba0 1.aba1 1.aba2 1.aba3 1.aba4
    1.aba5 1.aba6 1.aba7 1.aba8 1.aba9 1.abaa 1.abab 1.abac 1.abad 1.abae 1.abaf 1.abb0 1.abb1
    1.abb2 1.abb3 1.abb4 1.abb5 1.abb6 1.abb7 1.abb8 1.abb9 1.abba 1.abbb 1.abbc 1.abbd 1.abbe
    1.abbf 1.13f8 1.13f9 1.13fa 1.13fb 1.13fc 1.13fd 89b.10d0 1.10d1 1.10d2 1.10d3 1.10d4
    1.10d5 1.10d6 1.10d7 1.10d8 1.10d9 1.10da 1.10db 1.10dc 1.10dd 1.10de 1.10df 1.10e0 1.10e1
    1.10e2 1.10e3 1.10e4 1.10e5 1.10e6 1.10e7 1.10e8 1.10e9 1.10ea 1.10eb 1.10ec 1.10ed 1.10ee
    1.10ef 1.10f0 1.10f1 1.10f2 1.10f3 1.10f4 1.10f5 1.10f6 1.10f7 1.10f8 1.10f9 1.10fa 3.10fd
    1.10fe 1.10ff 141.1e01 2.1e03 2.1e05 2.1e07 2.1e09 2.1e0b 2.1e0d 2.1e0f 2.1e11 2.1e13
    2.1e15 2.1e17 2.1e19 2.1e1b 2.1e1d 2.1e1f 2.1e21 2.1e23 2.1e25 2.1e27 2.1e29 2.1e2b 2.1e2d
    2.1e2f 2.1e31 2.1e33 2.1e35 2.1e37 2.1e39 2.1e3b 2.1e3d 2.1e3f 2.1e41 2.1e43 2.1e45 2.1e47
    2.1e49 2.1e4b 2.1e4d 2.1e4f 2.1e51 2.1e53 2.1e55 2.1e57 2.1e59 2.1e5b 2.1e5d 2.1e5f 2.1e61
    2.1e63 2.1e65 2.1e67 2.1e69 2.1e6b 2.1e6d 2.1e6f 2.1e71 2.1e73 2.1e75 2.1e77 2.1e79 2.1e7b
    2.1e7d 2.1e7f 2.1e81 2.1e83 2.1e85 2.1e87 2.1e89 2.1e8b 2.1e8d 2.1e8f 2.1e91 2.1e93 2.1e95
    a.df 2.1ea1 2.1ea3 2.1ea5 2.1ea7 2.1ea9 2.1eab 2.1ead 2.1eaf 2.1eb1 2.1eb3 2.1eb5 2.1eb7
    2.1eb9 2.1ebb 2.1ebd 2.1ebf 2.1ec1 2.1ec3 2.1ec5 2.1ec7 2.1ec9 2.1ecb 2.1ecd 2.1ecf 2.1ed1
    2.1ed3 2.1ed5 2.1ed7 2.1ed9 2.1edb 2.1edd 2.1edf 2.1ee1 2.1ee3 2.1ee5 2.1ee7 2.1ee9 2.1eeb
    2.1eed 2.1eef 2.1ef1 2.1ef3 2.1ef5 2.1ef7 2.1ef9 2.1efb 2.1efd 2.1eff a.1f00 1.1f01 1.1f02
    1.1f03 1.1f04 1.1f05 1.1f06 1.1f07 9.1f10 1.1f11 1.1f12 1.1f13 1.1f14 1.1f15 b.1f20 1.1f21
    1.1f22 1.1f23 1.1f24 1.1f25 1.1f26 1.1f27 9.1f30 1.1f31 1.1f32 1.1f33 1.1f34 1.1f35 1.1f36
    1.1f37 9.1f40 1.1f41 1.1f42 1.1f43 1.1f44 1.1f45 c.1f51 2.1f53 2.1f55 2.1f57 9.1f60 1.1f61
    1.1f62 1.1f63 1.1f64 1.1f65 1.1f66 1.1f67 19.1f80 1.1f81 1.1f82 1.1f83 1.1f84 1.1f85 1.1f86
    1.1f87 9.1f90 1.1f91 1.1f92 1.1f93 1.1f94 1.1f95 1.1f96 1.1f97 9.1fa0 1.1fa1 1.1fa2 1.1fa3
    1.1fa4 1.1fa5 1.1fa6 1.1fa7 9.1fb0 1.1fb1 1.1f70 1.1f71 1.1fb3 c.1f72 1.1f73 1.1f74 1.1f75
    1.1fc3 c.1fd0 1.1fd1 1.1f76 1.1f77 d.1fe0 1.1fe1 1.1f7a 1.1f7b 1.1fe5 c.1f78 1.1f79 1.1f7c
    1.1f7d 1.1ff3 12a.3c9 4.6b 1.e5 7.214e 2e.2170 1.2171 1.2172 1.2173 1.2174 1.2175 1.2176
    1.2177 1.2178 1.2179 1.217a 1.217b 1.217c 1.217d 1.217e 1.217f 14.2184 333.24d0 1.24d1
    1.24d2 1.24d3 1.24d4 1.24d5 1.24d6 1.24d7 1.24d8 1.24d9 1.24da 1.24db 1.24dc 1.24dd 1.24de
    1.24df 1.24e0 1.24e1 1.24e2 1.24e3 1.24e4 1.24e5 1.24e6 1.24e7 1.24e8 1.24e9 731.2c30
    1.2c31 1.2c32 1.2c33 1.2c34 1.2c35 1.2c36 1.2c37 1.2c38 1.2c39 1.2c3a 1.2c3b 1.2c3c 1.2c3d
    1.2c3e 1.2c3f 1.2c40 1.2c41 1.2c42 1.2c43 1.2c44 1.2c45 1.2c46 1.2c47 1.2c48 1.2c49 1.2c4a
    1.2c4b 1.2c4c 1.2c4d 1.2c4e 1.2c4f 1.2c50 1.2c51 1.2c52 1.2c53 1.2c54 1.2c55 1.2c56 1.2c57
    1.2c58 1.2c59 1.2c5a 1.2c5b 1.2c5c 1.2c5d 1.2c5e 1.2c5f 31.2c61 2.26b 1.1d7d 1.27d 3.2c68
    2.2c6a 2.2c6c 2.251 1.271 1.250 1.252 2.2c73 3.2c76 9.23f 1.240 1.2c81 2.2c83 2.2c85 2.2c87
    2.2c89 2.2c8b 2.2c8d 2.2c8f 2.2c91 2.2c93 2.2c95 2.2c97 2.2c99 2.2c9b 2.2c9d 2.2c9f 2.2ca1
    2.2ca3 2.2ca5 2.2ca7 2.2ca9 2.2cab 2.2cad 2.2caf 2.2cb1 2.2cb3 2.2cb5 2.2cb7 2.2cb9 2.2cbb
    2.2cbd 2.2cbf 2.2cc1 2.2cc3 2.2cc5 2.2cc7 2.2cc9 2.2ccb 2.2ccd 2.2ccf 2.2cd1 2.2cd3 2.2cd5
    2.2cd7 2.2cd9 2.2cdb 2.2cdd 2.2cdf 2.2ce1 2.2ce3 9.2cec 2.2cee 5.2cf3 794e.a641 2.a643
    2.a645 2.a647 2.a649 2.a64b 2.a64d 2.a64f 2.a651 2.a653 2.a655 2.a657 2.a659 2.a65b 2.a65d
    2.a65f 2.a661 2.a663 2.a665 2.a667 2.a669 2.a66b 2.a66d 14.a681 2.a683 2.a685 2.a687 2.a689
    2.a68b 2.a68d 2.a68f 2.a691 2.a693 2.a695 2.a697 2.a699 2.a69b 88.a723 2.a725 2.a727 2.a729
    2.a72b 2.a72d 2.a72f 4.a733 2.a735 2.a737 2.a739 2.a73b 2.a73d 2.a73f 2.a741 2.a743 2.a745
    2.a747 2.a749 2.a74b 2.a74d 2.a74f 2.a751 2.a753 2.a755 2.a757 2.a759 2.a75b 2.a75d 2.a75f
    2.a761 2.a763 2.a765 2.a767 2.a769 2.a76b 2.a76d 2.a76f b.a77a 2.a77c 2.1d79 1.a77f 2.a781
    2.a783 2.a785 2.a787 5.a78c 2.265 3.a791 2.a793 4.a797 2.a799 2.a79b 2.a79d 2.a79f 2.a7a1
    2.a7a3 2.a7a5 2.a7a7 2.a7a9 2.266 1.25c 1.261 1.26c 1.26a 2.29e 1.287 1.29d 1.ab53 1.a7b5
    2.a7b7 2.a7b9 2.a7bb 2.a7bd 2.a7bf 2.a7c1 2.a7c3 2.a794 1.282 1.1d8e 1.a7c8 2.a7ca 7.a7d1
    6.a7d7 2.a7d9 1d.a7f6 572c.ff41 1.ff42 1.ff43 1.ff44 1.ff45 1.ff46 1.ff47 1.ff48 1.ff49
    1.ff4a 1.ff4b 1.ff4c 1.ff4d 1.ff4e 1.ff4f 1.ff50 1.ff51 1.ff52 1.ff53 1.ff54 1.ff55 1.ff56
    1.ff57 1.ff58 1.ff59 1.ff5a 4c6.10428 1.10429 1.1042a 1.1042b 1.1042c 1.1042d 1.1042e
    1.1042f 1.10430 1.10431 1.10432 1.10433 1.10434 1.10435 1.10436 1.10437 1.10438 1.10439
    1.1043a 1.1043b 1.1043c 1.1043d 1.1043e 1.1043f 1.10440 1.10441 1.10442 1.10443 1.10444
    1.10445 1.10446 1.10447 1.10448 1.10449 1.1044a 1.1044b 1.1044c 1.1044d 1.1044e 1.1044f
    89.104d8 1.104d9 1.104da 1.104db 1.104dc 1.104dd 1.104de 1.104df 1.104e0 1.104e1 1.104e2
    1.104e3 1.104e4 1.104e5 1.104e6 1.104e7 1.104e8 1.104e9 1.104ea 1.104eb 1.104ec 1.104ed
    1.104ee 1.104ef 1.104f0 1.104f1 1.104f2 1.104f3 1.104f4 1.104f5 1.104f6 1.104f7 1.104f8
    1.104f9 1.104fa 1.104fb 9d.10597 1.10598 1.10599 1.1059a 1.1059b 1.1059c 1.1059d 1.1059e
    1.1059f 1.105a0 1.105a1 2.105a3 1.105a4 1.105a5 1.105a6 1.105a7 1.105a8 1.105a9 1.105aa
    1.105ab 1.105ac 1.105ad 1.105ae 1.105af 1.105b0 1.105b1 2.105b3 1.105b4 1.105b5 1.105b6
    1.105b7 1.105b8 1.105b9 2.105bb 1.105bc 6eb.10cc0 1.10cc1 1.10cc2 1.10cc3 1.10cc4 1.10cc5
    1.10cc6 1.10cc7 1.10cc8 1.10cc9 1.10cca 1.10ccb 1.10ccc 1.10ccd 1.10cce 1.10ccf 1.10cd0
    1.10cd1 1.10cd2 1.10cd3 1.10cd4 1.10cd5 1.10cd6 1.10cd7 1.10cd8 1.10cd9 1.10cda 1.10cdb
    1.10cdc 1.10cdd 1.10cde 1.10cdf 1.10ce0 1.10ce1 1.10ce2 1.10ce3 1.10ce4 1.10ce5 1.10ce6
    1.10ce7 1.10ce8 1.10ce9 1.10cea 1.10ceb 1.10cec 1.10ced 1.10cee 1.10cef 1.10cf0 1.10cf1
    1.10cf2 bee.118c0 1.118c1 1.118c2 1.118c3 1.118c4 1.118c5 1.118c6 1.118c7 1.118c8 1.118c9
    1.118ca 1.118cb 1.118cc 1.118cd 1.118ce 1.118cf 1.118d0 1.118d1 1.118d2 1.118d3 1.118d4
    1.118d5 1.118d6 1.118d7 1.118d8 1.118d9 1.118da 1.118db 1.118dc 1.118dd 1.118de 1.118df
    5581.16e60 1.16e61 1.16e62 1.16e63 1.16e64 1.16e65 1.16e66 1.16e67 1.16e68 1.16e69 1.16e6a
    1.16e6b 1.16e6c 1.16e6d 1.16e6e 1.16e6f 1.16e70 1.16e71 1.16e72 1.16e73 1.16e74 1.16e75
    1.16e76 1.16e77 1.16e78 1.16e79 1.16e7a 1.16e7b 1.16e7c 1.16e7d 1.16e7e 1.16e7f 7aa1.1e922
    1.1e923 1.1e924 1.1e925 1.1e926 1.1e927 1.1e928 1.1e929 1.1e92a 1.1e92b 1.1e92c 1.1e92d
    1.1e92e 1.1e92f 1.1e930 1.1e931 1.1e932 1.1e933 1.1e934 1.1e935 1.1e936 1.1e937 1.1e938
    1.1e939 1.1e93a 1.1e93b 1.1e93c 1.1e93d 1.1e93e 1.1e93f 1.1e940 1.1e941 1.1e942 1.1e943"

/-- Upper case. -/
def upper : CharMap :=
  CharMap.decode "61.41 1.42 1.43 1.44 1.45 1.46 1.47 1.48 1.49 1.4a 1.4b 1.4c 1.4d 1.4e 1.4f 1.50 1.51 1.52
    1.53 1.54 1.55 1.56 1.57 1.58 1.59 1.5a 3b.39c 2a.53.53 1.c0 1.c1 1.c2 1.c3 1.c4 1.c5 1.c6
    1.c7 1.c8 1.c9 1.ca 1.cb 1.cc 1.cd 1.ce 1.cf 1.d0 1.d1 1.d2 1.d3 1.d4 1.d5 1.d6 2.d8 1.d9
    1.da 1.db 1.dc 1.dd 1.de 1.178 2.100 2.102 2.104 2.106 2.108 2.10a 2.10c 2.10e 2.110 2.112
    2.114 2.116 2.118 2.11a 2.11c 2.11e 2.120 2.122 2.124 2.126 2.128 2.12a 2.12c 2.12e 2.49
    2.132 2.134 2.136 3.139 2.13b 2.13d 2.13f 2.141 2.143 2.145 2.147 1.2bc.4e 2.14a 2.14c
    2.14e 2.150 2.152 2.154 2.156 2.158 2.15a 2.15c 2.15e 2.160 2.162 2.164 2.166 2.168 2.16a
    2.16c 2.16e 2.170 2.172 2.174 2.176 3.179 2.17b 2.17d 1.53 1.243 3.182 2.184 3.187 4.18b
    6.191 3.1f6 4.198 1.23d 4.220 3.1a0 2.1a2 2.1a4 3.1a7 5.1ac 3.1af 4.1b3 2.1b5 3.1b8 4.1bc
    2.1f7 6.1c4 1.1c4 2.1c7 1.1c7 2.1ca 1.1ca 2.1cd 2.1cf 2.1d1 2.1d3 2.1d5 2.1d7 2.1d9 2.1db
    1.18e 2.1de 2.1e0 2.1e2 2.1e4 2.1e6 2.1e8 2.1ea 2.1ec 2.1ee 1.4a.30c 2.1f1 1.1f1 2.1f4
    4.1f8 2.1fa 2.1fc 2.1fe 2.200 2.202 2.204 2.206 2.208 2.20a 2.20c 2.20e 2.210 2.212 2.214
    2.216 2.218 2.21a 2.21c 2.21e 4.222 2.224 2.226 2.228 2.22a 2.22c 2.22e 2.230 2.232 9.23b
    3.2c7e 1.2c7f 2.241 5.246 2.248 2.24a 2.24c 2.24e 1.2c6f 1.2c6d 1.2c70 1.181 1.186 2.189
    1.18a 2.18f 2.190 1.a7ab 4.193 1.a7ac 2.194 2.a78d 1.a7aa 2.197 1.196 1.a7ae 1.2c62 1.a7ad
    3.19c 2.2c6e 1.19d 3.19f 8.2c64 3.1a6 2.a7c5 1.1a9 4.a7b1 1.1ae 1.244 1.1b1 1.1b2 1.245
    6.1b7 b.a7b2 1.a7b0 a7.399 2c.370 2.372 4.376 4.3fd 1.3fe 1.3ff 13.399.308.301 1c.386 1.388
    1.389 1.38a 1.3a5.308.301 1.391 1.392 1.393 1.394 1.395 1.396 1.397 1.398 1.399 1.39a 1.39b
    1.39c 1.39d 1.39e 1.39f 1.3a0 1.3a1 1.3a3 1.3a3 1.3a4 1.3a5 1.3a6 1.3a7 1.3a8 1.3a9 1.3aa
    1.3ab 1.38c 1.38e 1.38f 2.392 1.398 4.3a6 1.3a0 1.3cf 2.3d8 2.3da 2.3dc 2.3de 2.3e0 2.3e2
    2.3e4 2.3e6 2.3e8 2.3ea 2.3ec 2.3ee 1.39a 1.3a1 1.3f9 1.37f 2.395 3.3f7 3.3fa 35.410 1.411
    1.412 1.413 1.414 1.415 1.416 1.417 1.418 1.419 1.41a 1.41b 1.41c 1.41d 1.41e 1.41f 1.420
    1.421 1.422 1.423 1.424 1.425 1.426 1.427 1.428 1.429 1.42a 1.42b 1.42c 1.42d 1.42e 1.42f
    1.400 1.401 1.402 1.403 1.404 1.405 1.406 1.407 1.408 1.409 1.40a 1.40b 1.40c 1.40d 1.40e
    1.40f 2.460 2.462 2.464 2.466 2.468 2.46a 2.46c 2.46e 2.470 2.472 2.474 2.476 2.478 2.47a
    2.47c 2.47e 2.480 a.48a 2.48c 2.48e 2.490 2.492 2.494 2.496 2.498 2.49a 2.49c 2.49e 2.4a0
    2.4a2 2.4a4 2.4a6 2.4a8 2.4aa 2.4ac 2.4ae 2.4b0 2.4b2 2.4b4 2.4b6 2.4b8 2.4ba 2.4bc 2.4be
    3.4c1 2.4c3 2.4c5 2.4c7 2.4c9 2.4cb 2.4cd 1.4c0 2.4d0 2.4d2 2.4d4 2.4d6 2.4d8 2.4da 2.4dc
    2.4de 2.4e0 2.4e2 2.4e4 2.4e6 2.4e8 2.4ea 2.4ec 2.4ee 2.4f0 2.4f2 2.4f4 2.4f6 2.4f8 2.4fa
    2.4fc 2.4fe 2.500 2.502 2.504 2.506 2.508 2.50a 2.50c 2.50e 2.510 2.512 2.514 2.516 2.518
    2.51a 2.51c 2.51e 2.520 2.522 2.524 2.526 2.528 2.52a 2.52c 2.52e 32.531 1.532 1.533 1.534
    1.535 1.536 1.537 1.538 1.539 1.53a 1.53b 1.53c 1.53d 1.53e 1.53f 1.540 1.541 1.542 1.543
    1.544 1.545 1.546 1.547 1.548 1.549 1.54a 1.54b 1.54c 1.54d 1.54e 1.54f 1.550 1.551 1.552
    1.553 1.554 1.555 1.556 1.535.552 b49.1c90 1.1c91 1.1c92 1.1c93 1.1c94 1.1c95 1.1c96 1.1c97
    1.1c98 1.1c99 1.1c9a 1.1c9b 1.1c9c 1.1c9d 1.1c9e 1.1c9f 1.1ca0 1.1ca1 1.1ca2 1.1ca3 1.1ca4
    1.1ca5 1.1ca6 1.1ca7 1.1ca8 1.1ca9 1.1caa 1.1cab 1.1cac 1.1cad 1.1cae 1.1caf 1.1cb0 1.1cb1
    1.1cb2 1.1cb3 1.1cb4 1.1cb5 1.1cb6 1.1cb7 1.1cb8 1.1cb9 1.1cba 3.1cbd 1.1cbe 1.1cbf
    2f9.13f0 1.13f1 1.13f2 1.13f3 1.13f4 1.13f5 883.412 1.414 1.41e 1.421 1.422 1.422 1.42a
    1.462 1.a64a f1.a77d 4.2c63 11.a7c6 73.1e00 2.1e02 2.1e04 2.1e06 2.1e08 2.1e0a 2.1e0c
    2.1e0e 2.1e10 2.1e12 2.1e14 2.1e16 2.1e18 2.1e1a 2.1e1c 2.1e1e 2.1e20 2.1e22 2.1e24 2.1e26
    2.1e28 2.1e2a 2.1e2c 2.1e2e 2.1e30 2.1e32 2.1e34 2.1e36 2.1e38 2.1e3a 2.1e3c 2.1e3e 2.1e40
    2.1e42 2.1e44 2.1e46 2.1e48 2.1e4a 2.1e4c 2.1e4e 2.1e50 2.1e52 2.1e54 2.1e56 2.1e58 2.1e5a
    2.1e5c 2.1e5e 2.1e60 2.1e62 2.1e64 2.1e66 2.1e68 2.1e6a 2.1e6c 2.1e6e 2.1e70 2.1e72 2.1e74
    2.1e76 2.1e78 2.1e7a 2.1e7c 2.1e7e 2.1e80 2.1e82 2.1e84 2.1e86 2.1e88 2.1e8a 2.1e8c 2.1e8e
    2.1e90 2.1e92 2.1e94 1.48.331 1.54.308 1.57.30a 1.59.30a 1.41.2be 1.1e60 6.1ea0 2.1ea2
    2.1ea4 2.1ea6 2.1ea8 2.1eaa 2.1eac 2.1eae 2.1eb0 2.1eb2 2.1eb4 2.1eb6 2.1eb8 2.1eba 2.1ebc
    2.1ebe 2.1ec0 2.1ec2 2.1ec4 2.1ec6 2.1ec8 2.1eca 2.1ecc 2.1ece 2.1ed0 2.1ed2 2.1ed4 2.1ed6
    2.1ed8 2.1eda 2.1edc 2.1ede 2.1ee0 2.1ee2 2.1ee4 2.1ee6 2.1ee8 2.1eea 2.1eec 2.1eee 2.1ef0
    2.1ef2 2.1ef4 2.1ef6 2.1ef8 2.1efa 2.1efc 2.1efe 1.1f08 1.1f09 1.1f0a 1.1f0b 1.1f0c 1.1f0d
    1.1f0e 1.1f0f 9.1f18 1.1f19 1.1f1a 1.1f1b 1.1f1c 1.1f1d b.1f28 1.1f29 1.1f2a 1.1f2b 1.1f2c
    1.1f2d 1.1f2e 1.1f2f 9.1f38 1.1f39 1.1f3a 1.1f3b 1.1f3c 1.1f3d 1.1f3e 1.1f3f 9.1f48 1.1f49
    1.1f4a 1.1f4b 1.1f4c 1.1f4d b.3a5.313 1.1f59 1.3a5.313.300 1.1f5b 1.3a5.313.301 1.1f5d
    1.3a5.313.342 1.1f5f 9.1f68 1.1f69 1.1f6a 1.1f6b 1.1f6c 1.1f6d 1.1f6e 1.1f6f 9.1fba 1.1fbb
    1.1fc8 1.1fc9 1.1fca 1.1fcb 1.1fda 1.1fdb 1.1ff8 1.1ff9 1.1fea 1.1feb 1.1ffa 1.1ffb
    3.1f08.399 1.1f09.399 1.1f0a.399 1.1f0b.399 1.1f0c.399 1.1f0d.399 1.1f0e.399 1.1f0f.399
    1.1f08.399 1.1f09.399 1.1f0a.399 1.1f0b.399 1.1f0c.399 1.1f0d.399 1.1f0e.399 1.1f0f.399
    1.1f28.399 1.1f29.399 1.1f2a.399 1.1f2b.399 1.1f2c.399 1.1f2d.399 1.1f2e.399 1.1f2f.399
    1.1f28.399 1.1f29.399 1.1f2a.399 1.1f2b.399 1.1f2c.399 1.1f2d.399 1.1f2e.399 1.1f2f.399
    1.1f68.399 1.1f69.399 1.1f6a.399 1.1f6b.399 1.1f6c.399 1.1f6d.399 1.1f6e.399 1.1f6f.399
    1.1f68.399 1.1f69.399 1.1f6a.399 1.1f6b.399 1.1f6c.399 1.1f6d.399 1.1f6e.399 1.1f6f.399
    1.1fb8 1.1fb9 1.1fba.399 1.391.399 1.386.399 2.391.342 1.391.342.399 5.391.399 2.399
    4.1fca.399 1.397.399 1.389.399 2.397.342 1.397.342.399 5.397.399 4.1fd8 1.1fd9
    1.399.308.300 1.399.308.301 3.399.342 1.399.308.342 9.1fe8 1.1fe9 1.3a5.308.300
    1.3a5.308.301 1.3a1.313 1.1fec 1.3a5.342 1.3a5.308.342 b.1ffa.399 1.3a9.399 1.38f.399
    2.3a9.342 1.3a9.342.399 5.3a9.399 152.2132 22.2160 1.2161 1.2162 1.2163 1.2164 1.2165
    1.2166 1.2167 1.2168 1.2169 1.216a 1.216b 1.216c 1.216d 1.216e 1.216f 5.2183 34c.24b6
    1.24b7 1.24b8 1.24b9 1.24ba 1.24bb 1.24bc 1.24bd 1.24be 1.24bf 1.24c0 1.24c1 1.24c2 1.24c3
    1.24c4 1.24c5 1.24c6 1.24c7 1.24c8 1.24c9 1.24ca 1.24cb 1.24cc 1.24cd 1.24ce 1.24cf
    747.2c00 1.2c01 1.2c02 1.2c03 1.2c04 1.2c05 1.2c06 1.2c07 1.2c08 1.2c09 1.2c0a 1.2c0b
    1.2c0c 1.2c0d 1.2c0e 1.2c0f 1.2c10 1.2c11 1.2c12 1.2c13 1.2c14 1.2c15 1.2c16 1.2c17 1.2c18
    1.2c19 1.2c1a 1.2c1b 1.2c1c 1.2c1d 1.2c1e 1.2c1f 1.2c20 1.2c21 1.2c22 1.2c23 1.2c24 1.2c25
    1.2c26 1.2c27 1.2c28 1.2c29 1.2c2a 1.2c2b 1.2c2c 1.2c2d 1.2c2e 1.2c2f 2.2c60 4.23a 1.23e
    2.2c67 2.2c69 2.2c6b 7.2c72 3.2c75 b.2c80 2.2c82 2.2c84 2.2c86 2.2c88 2.2c8a 2.2c8c 2.2c8e
    2.2c90 2.2c92 2.2c94 2.2c96 2.2c98 2.2c9a 2.2c9c 2.2c9e 2.2ca0 2.2ca2 2.2ca4 2.2ca6 2.2ca8
    2.2caa 2.2cac 2.2cae 2.2cb0 2.2cb2 2.2cb4 2.2cb6 2.2cb8 2.2cba 2.2cbc 2.2cbe 2.2cc0 2.2cc2
    2.2cc4 2.2cc6 2.2cc8 2.2cca 2.2ccc 2.2cce 2.2cd0 2.2cd2 2.2cd4 2.2cd6 2.2cd8 2.2cda 2.2cdc
    2.2cde 2.2ce0 2.2ce2 9.2ceb 2.2ced 5.2cf2 d.10a0 1.10a1 1.10a2 1.10a3 1.10a4 1.10a5 1.10a6
    1.10a7 1.10a8 1.10a9 1.10aa 1.10ab 1.10ac 1.10ad 1.10ae 1.10af 1.10b0 1.10b1 1.10b2 1.10b3
    1.10b4 1.10b5 1.10b6 1.10b7 1.10b8 1.10b9 1.10ba 1.10bb 1.10bc 1.10bd 1.10be 1.10bf 1.10c0
    1.10c1 1.10c2 1.10c3 1.10c4 1.10c5 2.10c7 6.10cd 7914.a640 2.a642 2.a644 2.a646 2.a648
    2.a64a 2.a64c 2.a64e 2.a650 2.a652 2.a654 2.a656 2.a658 2.a65a 2.a65c 2.a65e 2.a660 2.a662
    2.a664 2.a666 2.a668 2.a66a 2.a66c 14.a680 2.a682 2.a684 2.a686 2.a688 2.a68a 2.a68c 2.a68e
    2.a690 2.a692 2.a694 2.a696 2.a698 2.a69a 88.a722 2.a724 2.a726 2.a728 2.a72a 2.a72c 2.a72e
    4.a732 2.a734 2.a736 2.a738 2.a73a 2.a73c 2.a73e 2.a740 2.a742 2.a744 2.a746 2.a748 2.a74a
    2.a74c 2.a74e 2.a750 2.a752 2.a754 2.a756 2.a758 2.a75a 2.a75c 2.a75e 2.a760 2.a762 2.a764
    2.a766 2.a768 2.a76a 2.a76c 2.a76e b.a779 2.a77b 3.a77e 2.a780 2.a782 2.a784 2.a786 5.a78b
    5.a790 2.a792 1.a7c4 3.a796 2.a798 2.a79a 2.a79c 2.a79e 2.a7a0 2.a7a2 2.a7a4 2.a7a6 2.a7a8
    c.a7b4 2.a7b6 2.a7b8 2.a7ba 2.a7bc 2.a7be 2.a7c0 2.a7c2 5.a7c7 2.a7c9 7.a7d0 6.a7d6 2.a7d8
    1d.a7f5 35d.a7b3 1d.13a0 1.13a1 1.13a2 1.13a3 1.13a4 1.13a5 1.13a6 1.13a7 1.13a8 1.13a9
    1.13aa 1.13ab 1.13ac 1.13ad 1.13ae 1.13af 1.13b0 1.13b1 1.13b2 1.13b3 1.13b4 1.13b5 1.13b6
    1.13b7 1.13b8 1.13b9 1.13ba 1.13bb 1.13bc 1.13bd 1.13be 1.13bf 1.13c0 1.13c1 1.13c2 1.13c3
    1.13c4 1.13c5 1.13c6 1.13c7 1.13c8 1.13c9 1.13ca 1.13cb 1.13cc 1.13cd 1.13ce 1.13cf 1.13d0
    1.13d1 1.13d2 1.13d3 1.13d4 1.13d5 1.13d6 1.13d7 1.13d8 1.13d9 1.13da 1.13db 1.13dc 1.13dd
    1.13de 1.13df 1.13e0 1.13e1 1.13e2 1.13e3 1.13e4 1.13e5 1.13e6 1.13e7 1.13e8 1.13e9 1.13ea
    1.13eb 1.13ec 1.13ed 1.13ee 1.13ef 4f41.46.46 1.46.49 1.46.4c 1.46.46.49 1.46.46.4c 1.53.54
    1.53.54 d.544.546 1.544.535 1.544.53b 1.54e.546 1.544.53d 42a.ff21 1.ff22 1.ff23 1.ff24
    1.ff25 1.ff26 1.ff27 1.ff28 1.ff29 1.ff2a 1.ff2b 1.ff2c 1.ff2d 1.ff2e 1.ff2f 1.ff30 1.ff31
    1.ff32 1.ff33 1.ff34 1.ff35 1.ff36 1.ff37 1.ff38 1.ff39 1.ff3a 4ce.10400 1.10401 1.10402
    1.10403 1.10404 1.10405 1.10406 1.10407 1.10408 1.10409 1.1040a 1.1040b 1.1040c 1.1040d
    1.1040e 1.1040f 1.10410 1.10411 1.10412 1.10413 1.10414 1.10415 1.10416 1.10417 1.10418
    1.10419 1.1041a 1.1041b 1.1041c 1.1041d 1.1041e 1.1041f 1.10420 1.10421 1.10422 1.10423
    1.10424 1.10425 1.10426 1.10427 89.104b0 1.104b1 1.104b2 1.104b3 1.104b4 1.104b5 1.104b6
    1.104b7 1.104b8 1.104b9 1.104ba 1.104bb 1.104bc 1.104bd 1.104be 1.104bf 1.104c0 1.104c1
    1.104c2 1.104c3 1.104c4 1.104c5 1.104c6 1.104c7 1.104c8 1.104c9 1.104ca 1.104cb 1.104cc
    1.104cd 1.104ce 1.104cf 1.104d0 1.104d1 1.104d2 1.104d3 9c.10570 1.10571 1.10572 1.10573
    1.10574 1.10575 1.10576 1.10577 1.10578 1.10579 1.1057a 2.1057c 1.1057d 1.1057e 1.1057f
    1.10580 1.10581 1.10582 1.10583 1.10584 1.10585 1.10586 1.10587 1.10588 1.10589 1.1058a
    2.1058c 1.1058d 1.1058e 1.1058f 1.10590 1.10591 1.10592 2.10594 1.10595 704.10c80 1.10c81
    1.10c82 1.10c83 1.10c84 1.10c85 1.10c86 1.10c87 1.10c88 1.10c89 1.10c8a 1.10c8b 1.10c8c
    1.10c8d 1.10c8e 1.10c8f 1.10c90 1.10c91 1.10c92 1.10c93 1.10c94 1.10c95 1.10c96 1.10c97
    1.10c98 1.10c99 1.10c9a 1.10c9b 1.10c9c 1.10c9d 1.10c9e 1.10c9f 1.10ca0 1.10ca1 1.10ca2
    1.10ca3 1.10ca4 1.10ca5 1.10ca6 1.10ca7 1.10ca8 1.10ca9 1.10caa 1.10cab 1.10cac 1.10cad
    1.10cae 1.10caf 1.10cb0 1.10cb1 1.10cb2 bce.118a0 1.118a1 1.118a2 1.118a3 1.118a4 1.118a5
    1.118a6 1.118a7 1.118a8 1.118a9 1.118aa 1.118ab 1.118ac 1.118ad 1.118ae 1.118af 1.118b0
    1.118b1 1.118b2 1.118b3 1.118b4 1.118b5 1.118b6 1.118b7 1.118b8 1.118b9 1.118ba 1.118bb
    1.118bc 1.118bd 1.118be 1.118bf 5581.16e40 1.16e41 1.16e42 1.16e43 1.16e44 1.16e45 1.16e46
    1.16e47 1.16e48 1.16e49 1.16e4a 1.16e4b 1.16e4c 1.16e4d 1.16e4e 1.16e4f 1.16e50 1.16e51
    1.16e52 1.16e53 1.16e54 1.16e55 1.16e56 1.16e57 1.16e58 1.16e59 1.16e5a 1.16e5b 1.16e5c
    1.16e5d 1.16e5e 1.16e5f 7aa3.1e900 1.1e901 1.1e902 1.1e903 1.1e904 1.1e905 1.1e906 1.1e907
    1.1e908 1.1e909 1.1e90a 1.1e90b 1.1e90c 1.1e90d 1.1e90e 1.1e90f 1.1e910 1.1e911 1.1e912
    1.1e913 1.1e914 1.1e915 1.1e916 1.1e917 1.1e918 1.1e919 1.1e91a 1.1e91b 1.1e91c 1.1e91d
    1.1e91e 1.1e91f 1.1e920 1.1e921"

/-- Case folding. -/
def fold : CharMap :=
  CharMap.decode "41.61 1.62 1.63 1.64 1.65 1.66 1.67 1.68 1.69 1.6a 1.6b 1.6c 1.6d 1.6e 1.6f 1.70 1.71 1.72
    1.73 1.74 1.75 1.76 1.77 1.78 1.79 1.7a 5b.3bc b.e0 1.e1 1.e2 1.e3 1.e4 1.e5 1.e6 1.e7 1.e8
    1.e9 1.ea 1.eb 1.ec 1.ed 1.ee 1.ef 1.f0 1.f1 1.f2 1.f3 1.f4 1.f5 1.f6 2.f8 1.f9 1.fa 1.fb
    1.fc 1.fd 1.fe 1.73.73 21.101 2.103 2.105 2.107 2.109 2.10b 2.10d 2.10f 2.111 2.113 2.115
    2.117 2.119 2.11b 2.11d 2.11f 2.121 2.123 2.125 2.127 2.129 2.12b 2.12d 2.12f 2.69.307
    2.133 2.135 2.137 3.13a 2.13c 2.13e 2.140 2.142 2.144 2.146 2.148 2.2bc.6e 1.14b 2.14d
    2.14f 2.151 2.153 2.155 2.157 2.159 2.15b 2.15d 2.15f 2.161 2.163 2.165 2.167 2.169 2.16b
    2.16d 2.16f 2.171 2.173 2.175 2.177 2.ff 1.17a 2.17c 2.17e 2.73 2.253 1.183 2.185 2.254
    1.188 2.256 1.257 1.18c 3.1dd 1.259 1.25b 1.192 2.260 1.263 2.269 1.268 1.199 4.26f 1.272
    2.275 1.1a1 2.1a3 2.1a5 2.280 1.1a8 2.283 3.1ad 2.288 1.1b0 2.28a 1.28b 1.1b4 2.1b6 2.292
    1.1b9 4.1bd 8.1c6 1.1c6 2.1c9 1.1c9 2.1cc 1.1cc 2.1ce 2.1d0 2.1d2 2.1d4 2.1d6 2.1d8 2.1da
    2.1dc 3.1df 2.1e1 2.1e3 2.1e5 2.1e7 2.1e9 2.1eb 2.1ed 2.1ef 2.6a.30c 1.1f3 1.1f3 2.1f5
    2.195 1.1bf 1.1f9 2.1fb 2.1fd 2.1ff 2.201 2.203 2.205 2.207 2.209 2.20b 2.20d 2.20f 2.211
    2.213 2.215 2.217 2.219 2.21b 2.21d 2.21f 2.19e 2.223 2.225 2.227 2.229 2.22b 2.22d 2.22f
    2.231 2.233 8.2c65 1.23c 2.19a 1.2c66 3.242 2.180 1.289 1.28c 1.247 2.249 2.24b 2.24d 2.24f
    f7.3b9 2b.371 2.373 4.377 9.3f3 7.3ac 2.3ad 1.3ae 1.3af 2.3cc 2.3cd 1.3ce 1.3b9.308.301
    1.3b1 1.3b2 1.3b3 1.3b4 1.3b5 1.3b6 1.3b7 1.3b8 1.3b9 1.3ba 1.3bb 1.3bc 1.3bd 1.3be 1.3bf
    1.3c0 1.3c1 2.3c3 1.3c4 1.3c5 1.3c6 1.3c7 1.3c8 1.3c9 1.3ca 1.3cb 5.3c5.308.301 12.3c3
    d.3d7 1.3b2 1.3b8 4.3c6 1.3c0 2.3d9 2.3db 2.3dd 2.3df 2.3e1 2.3e3 2.3e5 2.3e7 2.3e9 2.3eb
    2.3ed 2.3ef 2.3ba 1.3c1 3.3b8 1.3b5 2.3f8 2.3f2 1.3fb 3.37b 1.37c 1.37d 1.450 1.451 1.452
    1.453 1.454 1.455 1.456 1.457 1.458 1.459 1.45a 1.45b 1.45c 1.45d 1.45e 1.45f 1.430 1.431
    1.432 1.433 1.434 1.435 1.436 1.437 1.438 1.439 1.43a 1.43b 1.43c 1.43d 1.43e 1.43f 1.440
    1.441 1.442 1.443 1.444 1.445 1.446 1.447 1.448 1.449 1.44a 1.44b 1.44c 1.44d 1.44e 1.44f
    31.461 2.463 2.465 2.467 2.469 2.46b 2.46d 2.46f 2.471 2.473 2.475 2.477 2.479 2.47b 2.47d
    2.47f 2.481 a.48b 2.48d 2.48f 2.491 2.493 2.495 2.497 2.499 2.49b 2.49d 2.49f 2.4a1 2.4a3
    2.4a5 2.4a7 2.4a9 2.4ab 2.4ad 2.4af 2.4b1 2.4b3 2.4b5 2.4b7 2.4b9 2.4bb 2.4bd 2.4bf 2.4cf
    1.4c2 2.4c4 2.4c6 2.4c8 2.4ca 2.4cc 2.4ce 3.4d1 2.4d3 2.4d5 2.4d7 2.4d9 2.4db 2.4dd 2.4df
    2.4e1 2.4e3 2.4e5 2.4e7 2.4e9 2.4eb 2.4ed 2.4ef 2.4f1 2.4f3 2.4f5 2.4f7 2.4f9 2.4fb 2.4fd
    2.4ff 2.501 2.503 2.505 2.507 2.509 2.50b 2.50d 2.50f 2.511 2.513 2.515 2.517 2.519 2.51b
    2.51d 2.51f 2.521 2.523 2.525 2.527 2.529 2.52b 2.52d 2.52f 3.561 1.562 1.563 1.564 1.565
    1.566 1.567 1.568 1.569 1.56a 1.56b 1.56c 1.56d 1.56e 1.56f 1.570 1.571 1.572 1.573 1.574
    1.575 1.576 1.577 1.578 1.579 1.57a 1.57b 1.57c 1.57d 1.57e 1.57f 1.580 1.581 1.582 1.583
    1.584 1.585 1.586 31.565.582 b19.2d00 1.2d01 1.2d02 1.2d03 1.2d04 1.2d05 1.2d06 1.2d07
    1.2d08 1.2d09 1.2d0a 1.2d0b 1.2d0c 1.2d0d 1.2d0e 1.2d0f 1.2d10 1.2d11 1.2d12 1.2d13 1.2d14
    1.2d15 1.2d16 1.2d17 1.2d18 1.2d19 1.2d1a 1.2d1b 1.2d1c 1.2d1d 1.2d1e 1.2d1f 1.2d20 1.2d21
    1.2d22 1.2d23 1.2d24 1.2d25 2.2d27 6.2d2d 32b.13f0 1.13f1 1.13f2 1.13f3 1.13f4 1.13f5
    883.432 1.434 1.43e 1.441 1.442 1.442 1.44a 1.463 1.a64b 8.10d0 1.10d1 1.10d2 1.10d3 1.10d4
    1.10d5 1.10d6 1.10d7 1.10d8 1.10d9 1.10da 1.10db 1.10dc 1.10dd 1.10de 1.10df 1.10e0 1.10e1
    1.10e2 1.10e3 1.10e4 1.10e5 1.10e6 1.10e7 1.10e8 1.10e9 1.10ea 1.10eb 1.10ec 1.10ed 1.10ee
    1.10ef 1.10f0 1.10f1 1.10f2 1.10f3 1.10f4 1.10f5 1.10f6 1.10f7 1.10f8 1.10f9 1.10fa 3.10fd
    1.10fe 1.10ff 141.1e01 2.1e03 2.1e05 2.1e07 2.1e09 2.1e0b 2.1e0d 2.1e0f 2.1e11 2.1e13
    2.1e15 2.1e17 2.1e19 2.1e1b 2.1e1d 2.1e1f 2.1e21 2.1e23 2.1e25 2.1e27 2.1e29 2.1e2b 2.1e2d
    2.1e2f 2.1e31 2.1e33 2.1e35 2.1e37 2.1e39 2.1e3b 2.1e3d 2.1e3f 2.1e41 2.1e43 2.1e45 2.1e47
    2.1e49 2.1e4b 2.1e4d 2.1e4f 2.1e51 2.1e53 2.1e55 2.1e57 2.1e59 2.1e5b 2.1e5d 2.1e5f 2.1e61
    2.1e63 2.1e65 2.1e67 2.1e69 2.1e6b 2.1e6d 2.1e6f 2.1e71 2.1e73 2.1e75 2.1e77 2.1e79 2.1e7b
    2.1e7d 2.1e7f 2.1e81 2.1e83 2.1e85 2.1e87 2.1e89 2.1e8b 2.1e8d 2.1e8f 2.1e91 2.1e93 2.1e95
    2.68.331 1.74.308 1.77.30a 1.79.30a 1.61.2be 1.1e61 3.73.73 2.1ea1 2.1ea3 2.1ea5 2.1ea7
    2.1ea9 2.1eab 2.1ead 2.1eaf 2.1eb1 2.1eb3 2.1eb5 2.1eb7 2.1eb9 2.1ebb 2.1ebd 2.1ebf 2.1ec1
    2.1ec3 2.1ec5 2.1ec7 2.1ec9 2.1ecb 2.1ecd 2.1ecf 2.1ed1 2.1ed3 2.1ed5 2.1ed7 2.1ed9 2.1edb
    2.1edd 2.1edf 2.1ee1 2.1ee3 2.1ee5 2.1ee7 2.1ee9 2.1eeb 2.1eed 2.1eef 2.1ef1 2.1ef3 2.1ef5
    2.1ef7 2.1ef9 2.1efb 2.1efd 2.1eff a.1f00 1.1f01 1.1f02 1.1f03 1.1f04 1.1f05 1.1f06 1.1f07
    9.1f10 1.1f11 1.1f12 1.1f13 1.1f14 1.1f15 b.1f20 1.1f21 1.1f22 1.1f23 1.1f24 1.1f25 1.1f26
    1.1f27 9.1f30 1.1f31 1.1f32 1.1f33 1.1f34 1.1f35 1.1f36 1.1f37 9.1f40 1.1f41 1.1f42 1.1f43
    1.1f44 1.1f45 3.3c5.313 2.3c5.313.300 2.3c5.313.301 2.3c5.313.342 3.1f51 2.1f53 2.1f55
    2.1f57 9.1f60 1.1f61 1.1f62 1.1f63 1.1f64 1.1f65 1.1f66 1.1f67 11.1f00.3b9 1.1f01.3b9
    1.1f02.3b9 1.1f03.3b9 1.1f04.3b9 1.1f05.3b9 1.1f06.3b9 1.1f07.3b9 1.1f00.3b9 1.1f01.3b9
    1.1f02.3b9 1.1f03.3b9 1.1f04.3b9 1.1f05.3b9 1.1f06.3b9 1.1f07.3b9 1.1f20.3b9 1.1f21.3b9
    1.1f22.3b9 1.1f23.3b9 1.1f24.3b9 1.1f25.3b9 1.1f26.3b9 1.1f27.3b9 1.1f20.3b9 1.1f21.3b9
    1.1f22.3b9 1.1f23.3b9 1.1f24.3b9 1.1f25.3b9 1.1f26.3b9 1.1f27.3b9 1.1f60.3b9 1.1f61.3b9
    1.1f62.3b9 1.1f63.3b9 1.1f64.3b9 1.1f65.3b9 1.1f66.3b9 1.1f67.3b9 1.1f60.3b9 1.1f61.3b9
    1.1f62.3b9 1.1f63.3b9 1.1f64.3b9 1.1f65.3b9 1.1f66.3b9 1.1f67.3b9 3.1f70.3b9 1.3b1.3b9
    1.3ac.3b9 2.3b1.342 1.3b1.342.3b9 1.1fb0 1.1fb1 1.1f70 1.1f71 1.3b1.3b9 2.3b9 4.1f74.3b9
    1.3b7.3b9 1.3ae.3b9 2.3b7.342 1.3b7.342.3b9 1.1f72 1.1f73 1.1f74 1.1f75 1.3b7.3b9
    6.3b9.308.300 1.3b9.308.301 3.3b9.342 1.3b9.308.342 1.1fd0 1.1fd1 1.1f76 1.1f77
    7.3c5.308.300 1.3c5.308.301 1.3c1.313 2.3c5.342 1.3c5.308.342 1.1fe0 1.1fe1 1.1f7a 1.1f7b
    1.1fe5 6.1f7c.3b9 1.3c9.3b9 1.3ce.3b9 2.3c9.342 1.3c9.342.3b9 1.1f78 1.1f79 1.1f7c 1.1f7d
    1.3c9.3b9 12a.3c9 4.6b 1.e5 7.214e 2e.2170 1.2171 1.2172 1.2173 1.2174 1.2175 1.2176 1.2177
    1.2178 1.2179 1.217a 1.217b 1.217c 1.217d 1.217e 1.217f 14.2184 333.24d0 1.24d1 1.24d2
    1.24d3 1.24d4 1.24d5 1.24d6 1.24d7 1.24d8 1.24d9 1.24da 1.24db 1.24dc 1.24dd 1.24de 1.24df
    1.24e0 1.24e1 1.24e2 1.24e3 1.24e4 1.24e5 1.24e6 1.24e7 1.24e8 1.24e9 731.2c30 1.2c31
    1.2c32 1.2c33 1.2c34 1.2c35 1.2c36 1.2c37 1.2c38 1.2c39 1.2c3a 1.2c3b 1.2c3c 1.2c3d 1.2c3e
    1.2c3f 1.2c40 1.2c41 1.2c42 1.2c43 1.2c44 1.2c45 1.2c46 1.2c47 1.2c48 1.2c49 1.2c4a 1.2c4b
    1.2c4c 1.2c4d 1.2c4e 1.2c4f 1.2c50 1.2c51 1.2c52 1.2c53 1.2c54 1.2c55 1.2c56 1.2c57 1.2c58
    1.2c59 1.2c5a 1.2c5b 1.2c5c 1.2c5d 1.2c5e 1.2c5f 31.2c61 2.26b 1.1d7d 1.27d 3.2c68 2.2c6a
    2.2c6c 2.251 1.271 1.250 1.252 2.2c73 3.2c76 9.23f 1.240 1.2c81 2.2c83 2.2c85 2.2c87 2.2c89
    2.2c8b 2.2c8d 2.2c8f 2.2c91 2.2c93 2.2c95 2.2c97 2.2c99 2.2c9b 2.2c9d 2.2c9f 2.2ca1 2.2ca3
    2.2ca5 2.2ca7 2.2ca9 2.2cab 2.2cad 2.2caf 2.2cb1 2.2cb3 2.2cb5 2.2cb7 2.2cb9 2.2cbb 2.2cbd
    2.2cbf 2.2cc1 2.2cc3 2.2cc5 2.2cc7 2.2cc9 2.2ccb 2.2ccd 2.2ccf 2.2cd1 2.2cd3 2.2cd5 2.2cd7
    2.2cd9 2.2cdb 2.2cdd 2.2cdf 2.2ce1 2.2ce3 9.2cec 2.2cee 5.2cf3 794e.a641 2.a643 2.a645
    2.a647 2.a649 2.a64b 2.a64d 2.a64f 2.a651 2.a653 2.a655 2.a657 2.a659 2.a65b 2.a65d 2.a65f
    2.a661 2.a663 2.a665 2.a667 2.a669 2.a66b 2.a66d 14.a681 2.a683 2.a685 2.a687 2.a689 2.a68b
    2.a68d 2.a68f 2.a691 2.a693 2.a695 2.a697 2.a699 2.a69b 88.a723 2.a725 2.a727 2.a729 2.a72b
    2.a72d 2.a72f 4.a733 2.a735 2.a737 2.a739 2.a73b 2.a73d 2.a73f 2.a741 2.a743 2.a745 2.a747
    2.a749 2.a74b 2.a74d 2.a74f 2.a751 2.a753 2.a755 2.a757 2.a759 2.a75b 2.a75d 2.a75f 2.a761
    2.a763 2.a765 2.a767 2.a769 2.a76b 2.a76d 2.a76f b.a77a 2.a77c 2.1d79 1.a77f 2.a781 2.a783
    2.a785 2.a787 5.a78c 2.265 3.a791 2.a793 4.a797 2.a799 2.a79b 2.a79d 2.a79f 2.a7a1 2.a7a3
    2.a7a5 2.a7a7 2.a7a9 2.266 1.25c 1.261 1.26c 1.26a 2.29e 1.287 1.29d 1.ab53 1.a7b5 2.a7b7
    2.a7b9 2.a7bb 2.a7bd 2.a7bf 2.a7c1 2.a7c3 2.a794 1.282 1.1d8e 1.a7c8 2.a7ca 7.a7d1 6.a7d7
    2.a7d9 1d.a7f6 37b.13a0 1.13a1 1.13a2 1.13a3 1.13a4 1.13a5 1.13a6 1.13a7 1.13a8 1.13a9
    1.13aa 1.13ab 1.13ac 1.13ad 1.13ae 1.13af 1.13b0 1.13b1 1.13b2 1.13b3 1.13b4 1.13b5 1.13b6
    1.13b7 1.13b8 1.13b9 1.13ba 1.13bb 1.13bc 1.13bd 1.13be 1.13bf 1.13c0 1.13c1 1.13c2 1.13c3
    1.13c4 1.13c5 1.13c6 1.13c7 1.13c8 1.13c9 1.13ca 1.13cb 1.13cc 1.13cd 1.13ce 1.13cf 1.13d0
    1.13d1 1.13d2 1.13d3 1.13d4 1.13d5 1.13d6 1.13d7 1.13d8 1.13d9 1.13da 1.13db 1.13dc 1.13dd
    1.13de 1.13df 1.13e0 1.13e1 1.13e2 1.13e3 1.13e4 1.13e5 1.13e6 1.13e7 1.13e8 1.13e9 1.13ea
    1.13eb 1.13ec 1.13ed 1.13ee 1.13ef 4f41.66.66 1.66.69 1.66.6c 1.66.66.69 1.66.66.6c 1.73.74
    1.73.74 d.574.576 1.574.565 1.574.56b 1.57e.576 1.574.56d 40a.ff41 1.ff42 1.ff43 1.ff44
    1.ff45 1.ff46 1.ff47 1.ff48 1.ff49 1.ff4a 1.ff4b 1.ff4c 1.ff4d 1.ff4e 1.ff4f 1.ff50 1.ff51
    1.ff52 1.ff53 1.ff54 1.ff55 1.ff56 1.ff57 1.ff58 1.ff59 1.ff5a 4c6.10428 1.10429 1.1042a
    1.1042b 1.1042c 1.1042d 1.1042e 1.1042f 1.10430 1.10431 1.10432 1.10433 1.10434 1.10435
    1.10436 1.10437 1.10438 1.10439 1.1043a 1.1043b 1.1043c 1.1043d 1.1043e 1.1043f 1.10440
    1.10441 1.10442 1.10443 1.10444 1.10445 1.10446 1.10447 1.10448 1.10449 1.1044a 1.1044b
    1.1044c 1.1044d 1.1044e 1.1044f 89.104d8 1.104d9 1.104da 1.104db 1.104dc 1.104dd 1.104de
    1.104df 1.104e0 1.104e1 1.104e2 1.104e3 1.104e4 1.104e5 1.104e6 1.104e7 1.104e8 1.104e9
    1.104ea 1.104eb 1.104ec 1.104ed 1.104ee 1.104ef 1.104f0 1.104f1 1.104f2 1.104f3 1.104f4
    1.104f5 1.104f6 1.104f7 1.104f8 1.104f9 1.104fa 1.104fb 9d.10597 1.10598 1.10599 1.1059a
    1.1059b 1.1059c 1.1059d 1.1059e 1.1059f 1.105a0 1.105a1 2.105a3 1.105a4 1.105a5 1.105a6
    1.105a7 1.105a8 1.105a9 1.105aa 1.105ab 1.105ac 1.105ad 1.105ae 1.105af 1.105b0 1.105b1
    2.105b3 1.105b4 1.105b5 1.105b6 1.105b7 1.105b8 1.105b9 2.105bb 1.105bc 6eb.10cc0 1.10cc1
    1.10cc2 1.10cc3 1.10cc4 1.10cc5 1.10cc6 1.10cc7 1.10cc8 1.10cc9 1.10cca 1.10ccb 1.10ccc
    1.10ccd 1.10cce 1.10ccf 1.10cd0 1.10cd1 1.10cd2 1.10cd3 1.10cd4 1.10cd5 1.10cd6 1.10cd7
    1.10cd8 1.10cd9 1.10cda 1.10cdb 1.10cdc 1.10cdd 1.10cde 1.10cdf 1.10ce0 1.10ce1 1.10ce2
    1.10ce3 1.10ce4 1.10ce5 1.10ce6 1.10ce7 1.10ce8 1.10ce9 1.10cea 1.10ceb 1.10cec 1.10ced
    1.10cee 1.10cef 1.10cf0 1.10cf1 1.10cf2 bee.118c0 1.118c1 1.118c2 1.118c3 1.118c4 1.118c5
    1.118c6 1.118c7 1.118c8 1.118c9 1.118ca 1.118cb 1.118cc 1.118cd 1.118ce 1.118cf 1.118d0
    1.118d1 1.118d2 1.118d3 1.118d4 1.118d5 1.118d6 1.118d7 1.118d8 1.118d9 1.118da 1.118db
    1.118dc 1.118dd 1.118de 1.118df 5581.16e60 1.16e61 1.16e62 1.16e63 1.16e64 1.16e65 1.16e66
    1.16e67 1.16e68 1.16e69 1.16e6a 1.16e6b 1.16e6c 1.16e6d 1.16e6e 1.16e6f 1.16e70 1.16e71
    1.16e72 1.16e73 1.16e74 1.16e75 1.16e76 1.16e77 1.16e78 1.16e79 1.16e7a 1.16e7b 1.16e7c
    1.16e7d 1.16e7e 1.16e7f 7aa1.1e922 1.1e923 1.1e924 1.1e925 1.1e926 1.1e927 1.1e928 1.1e929
    1.1e92a 1.1e92b 1.1e92c 1.1e92d 1.1e92e 1.1e92f 1.1e930 1.1e931 1.1e932 1.1e933 1.1e934
    1.1e935 1.1e936 1.1e937 1.1e938 1.1e939 1.1e93a 1.1e93b 1.1e93c 1.1e93d 1.1e93e 1.1e93f
    1.1e940 1.1e941 1.1e942 1.1e943"

/-- Small letters that share a capital with others, and those others. -/
def akin : CharMap :=
  CharMap.decode "69.131 a.17f 42.3bc 7c.69 4e.73 1c6.3b9.1fbe 4b.1fd3 20.1fe3 2.3d0 3.3f5 3.3d1 1.345.1fbe
    1.3f0 2.b5 4.3d6 1.3f1 1.3c3 1.3c2 3.3d5 a.3b2 1.3b8 4.3c6 1.3c0 1a.3ba 1.3c1 4.3b5 3d.1c80
    2.1c81 a.1c82 3.1c83 1.1c84.1c85 8.1c86 19.1c87 181d.432 1.434 1.43e 1.441 1.442.1c85
    1.442.1c84 1.44a 1.463 1.a64b 1d9.1e9b 3a.1e61 123.345.3b9 15.390 10.3b0 8668.1c88
    54ba.fb06 1.fb05"

/-- For a small letter, the other characters that read the same when case is ignored. -/
def variants : CharMap :=
  CharMap.decode "61.41 1.42 1.43 1.44 1.45 1.46 1.47 1.48 1.49.130.131 1.4a 1.4b.212a 1.4c 1.4d 1.4e 1.4f
    1.50 1.51 1.52 1.53.17f 1.54 1.55 1.56 1.57 1.58 1.59 1.5a 3b.39c.3bc 2a.1e9e 1.c0 1.c1
    1.c2 1.c3 1.c4 1.c5.212b 1.c6 1.c7 1.c8 1.c9 1.ca 1.cb 1.cc 1.cd 1.ce 1.cf 1.d0 1.d1 1.d2
    1.d3 1.d4 1.d5 1.d6 2.d8 1.d9 1.da 1.db 1.dc 1.dd 1.de 1.178 2.100 2.102 2.104 2.106 2.108
    2.10a 2.10c 2.10e 2.110 2.112 2.114 2.116 2.118 2.11a 2.11c 2.11e 2.120 2.122 2.124 2.126
    2.128 2.12a 2.12c 2.12e 2.49.69.130 2.132 2.134 2.136 3.139 2.13b 2.13d 2.13f 2.141 2.143
    2.145 2.147 3.14a 2.14c 2.14e 2.150 2.152 2.154 2.156 2.158 2.15a 2.15c 2.15e 2.160 2.162
    2.164 2.166 2.168 2.16a 2.16c 2.16e 2.170 2.172 2.174 2.176 3.179 2.17b 2.17d 1.53.73 1.243
    3.182 2.184 3.187 4.18b 6.191 3.1f6 4.198 1.23d 4.220 3.1a0 2.1a2 2.1a4 3.1a7 5.1ac 3.1af
    4.1b3 2.1b5 3.1b8 4.1bc 2.1f7 7.1c4.1c5 3.1c7.1c8 3.1ca.1cb 2.1cd 2.1cf 2.1d1 2.1d3 2.1d5
    2.1d7 2.1d9 2.1db 1.18e 2.1de 2.1e0 2.1e2 2.1e4 2.1e6 2.1e8 2.1ea 2.1ec 2.1ee 4.1f1.1f2
    2.1f4 4.1f8 2.1fa 2.1fc 2.1fe 2.200 2.202 2.204 2.206 2.208 2.20a 2.20c 2.20e 2.210 2.212
    2.214 2.216 2.218 2.21a 2.21c 2.21e 4.222 2.224 2.226 2.228 2.22a 2.22c 2.22e 2.230 2.232
    9.23b 3.2c7e 1.2c7f 2.241 5.246 2.248 2.24a 2.24c 2.24e 1.2c6f 1.2c6d 1.2c70 1.181 1.186
    2.189 1.18a 2.18f 2.190 1.a7ab 4.193 1.a7ac 2.194 2.a78d 1.a7aa 2.197 1.196 1.a7ae 1.2c62
    1.a7ad 3.19c 2.2c6e 1.19d 3.19f 8.2c64 3.1a6 2.a7c5 1.1a9 4.a7b1 1.1ae 1.244 1.1b1 1.1b2
    1.245 6.1b7 b.a7b2 1.a7b0 a7.399.3b9.1fbe 2c.370 2.372 4.376 4.3fd 1.3fe 1.3ff 13.1fd3
    1c.386 1.388 1.389 1.38a 1.1fe3 1.391 1.392.3d0 1.393 1.394 1.395.3f5 1.396 1.397
    1.398.3d1.3f4 1.345.399.1fbe 1.39a.3f0 1.39b 1.b5.39c 1.39d 1.39e 1.39f 1.3a0.3d6 1.3a1.3f1
    1.3a3.3c3 1.3a3.3c2 1.3a4 1.3a5 1.3a6.3d5 1.3a7 1.3a8 1.3a9.2126 1.3aa 1.3ab 1.38c 1.38e
    1.38f 2.392.3b2 1.398.3b8.3f4 4.3a6.3c6 1.3a0.3c0 1.3cf 2.3d8 2.3da 2.3dc 2.3de 2.3e0 2.3e2
    2.3e4 2.3e6 2.3e8 2.3ea 2.3ec 2.3ee 1.39a.3ba 1.3a1.3c1 1.3f9 1.37f 2.395.3b5 3.3f7 3.3fa
    35.410 1.411 1.412.1c80 1.413 1.414.1c81 1.415 1.416 1.417 1.418 1.419 1.41a 1.41b 1.41c
    1.41d 1.41e.1c82 1.41f 1.420 1.421.1c83 1.422.1c84.1c85 1.423 1.424 1.425 1.426 1.427 1.428
    1.429 1.42a.1c86 1.42b 1.42c 1.42d 1.42e 1.42f 1.400 1.401 1.402 1.403 1.404 1.405 1.406
    1.407 1.408 1.409 1.40a 1.40b 1.40c 1.40d 1.40e 1.40f 2.460 2.462.1c87 2.464 2.466 2.468
    2.46a 2.46c 2.46e 2.470 2.472 2.474 2.476 2.478 2.47a 2.47c 2.47e 2.480 a.48a 2.48c 2.48e
    2.490 2.492 2.494 2.496 2.498 2.49a 2.49c 2.49e 2.4a0 2.4a2 2.4a4 2.4a6 2.4a8 2.4aa 2.4ac
    2.4ae 2.4b0 2.4b2 2.4b4 2.4b6 2.4b8 2.4ba 2.4bc 2.4be 3.4c1 2.4c3 2.4c5 2.4c7 2.4c9 2.4cb
    2.4cd 1.4c0 2.4d0 2.4d2 2.4d4 2.4d6 2.4d8 2.4da 2.4dc 2.4de 2.4e0 2.4e2 2.4e4 2.4e6 2.4e8
    2.4ea 2.4ec 2.4ee 2.4f0 2.4f2 2.4f4 2.4f6 2.4f8 2.4fa 2.4fc 2.4fe 2.500 2.502 2.504 2.506
    2.508 2.50a 2.50c 2.50e 2.510 2.512 2.514 2.516 2.518 2.51a 2.51c 2.51e 2.520 2.522 2.524
    2.526 2.528 2.52a 2.52c 2.52e 32.531 1.532 1.533 1.534 1.535 1.536 1.537 1.538 1.539 1.53a
    1.53b 1.53c 1.53d 1.53e 1.53f 1.540 1.541 1.542 1.543 1.544 1.545 1.546 1.547 1.548 1.549
    1.54a 1.54b 1.54c 1.54d 1.54e 1.54f 1.550 1.551 1.552 1.553 1.554 1.555 1.556 b4a.1c90
    1.1c91 1.1c92 1.1c93 1.1c94 1.1c95 1.1c96 1.1c97 1.1c98 1.1c99 1.1c9a 1.1c9b 1.1c9c 1.1c9d
    1.1c9e 1.1c9f 1.1ca0 1.1ca1 1.1ca2 1.1ca3 1.1ca4 1.1ca5 1.1ca6 1.1ca7 1.1ca8 1.1ca9 1.1caa
    1.1cab 1.1cac 1.1cad 1.1cae 1.1caf 1.1cb0 1.1cb1 1.1cb2 1.1cb3 1.1cb4 1.1cb5 1.1cb6 1.1cb7
    1.1cb8 1.1cb9 1.1cba 3.1cbd 1.1cbe 1.1cbf 2f9.13f0 1.13f1 1.13f2 1.13f3 1.13f4 1.13f5
    883.412.432 1.414.434 1.41e.43e 1.421.441 1.422.442.1c85 1.422.442.1c84 1.42a.44a 1.462.463
    1.a64a.a64b f1.a77d 4.2c63 11.a7c6 73.1e00 2.1e02 2.1e04 2.1e06 2.1e08 2.1e0a 2.1e0c 2.1e0e
    2.1e10 2.1e12 2.1e14 2.1e16 2.1e18 2.1e1a 2.1e1c 2.1e1e 2.1e20 2.1e22 2.1e24 2.1e26 2.1e28
    2.1e2a 2.1e2c 2.1e2e 2.1e30 2.1e32 2.1e34 2.1e36 2.1e38 2.1e3a 2.1e3c 2.1e3e 2.1e40 2.1e42
    2.1e44 2.1e46 2.1e48 2.1e4a 2.1e4c 2.1e4e 2.1e50 2.1e52 2.1e54 2.1e56 2.1e58 2.1e5a 2.1e5c
    2.1e5e 2.1e60.1e9b 2.1e62 2.1e64 2.1e66 2.1e68 2.1e6a 2.1e6c 2.1e6e 2.1e70 2.1e72 2.1e74
    2.1e76 2.1e78 2.1e7a 2.1e7c 2.1e7e 2.1e80 2.1e82 2.1e84 2.1e86 2.1e88 2.1e8a 2.1e8c 2.1e8e
    2.1e90 2.1e92 2.1e94 6.1e60.1e61 6.1ea0 2.1ea2 2.1ea4 2.1ea6 2.1ea8 2.1eaa 2.1eac 2.1eae
    2.1eb0 2.1eb2 2.1eb4 2.1eb6 2.1eb8 2.1eba 2.1ebc 2.1ebe 2.1ec0 2.1ec2 2.1ec4 2.1ec6 2.1ec8
    2.1eca 2.1ecc 2.1ece 2.1ed0 2.1ed2 2.1ed4 2.1ed6 2.1ed8 2.1eda 2.1edc 2.1ede 2.1ee0 2.1ee2
    2.1ee4 2.1ee6 2.1ee8 2.1eea 2.1eec 2.1eee 2.1ef0 2.1ef2 2.1ef4 2.1ef6 2.1ef8 2.1efa 2.1efc
    2.1efe 1.1f08 1.1f09 1.1f0a 1.1f0b 1.1f0c 1.1f0d 1.1f0e 1.1f0f 9.1f18 1.1f19 1.1f1a 1.1f1b
    1.1f1c 1.1f1d b.1f28 1.1f29 1.1f2a 1.1f2b 1.1f2c 1.1f2d 1.1f2e 1.1f2f 9.1f38 1.1f39 1.1f3a
    1.1f3b 1.1f3c 1.1f3d 1.1f3e 1.1f3f 9.1f48 1.1f49 1.1f4a 1.1f4b 1.1f4c 1.1f4d c.1f59 2.1f5b
    2.1f5d 2.1f5f 9.1f68 1.1f69 1.1f6a 1.1f6b 1.1f6c 1.1f6d 1.1f6e 1.1f6f 9.1fba 1.1fbb 1.1fc8
    1.1fc9 1.1fca 1.1fcb 1.1fda 1.1fdb 1.1ff8 1.1ff9 1.1fea 1.1feb 1.1ffa 1.1ffb 3.1f88 1.1f89
    1.1f8a 1.1f8b 1.1f8c 1.1f8d 1.1f8e 1.1f8f 9.1f98 1.1f99 1.1f9a 1.1f9b 1.1f9c 1.1f9d 1.1f9e
    1.1f9f 9.1fa8 1.1fa9 1.1faa 1.1fab 1.1fac 1.1fad 1.1fae 1.1faf 9.1fb8 1.1fb9 2.1fbc
    b.345.399.3b9 5.1fcc d.1fd8 1.1fd9 2.390 d.1fe8 1.1fe9 2.3b0 2.1fec e.1ffc 15b.2132 22.2160
    1.2161 1.2162 1.2163 1.2164 1.2165 1.2166 1.2167 1.2168 1.2169 1.216a 1.216b 1.216c 1.216d
    1.216e 1.216f 5.2183 34c.24b6 1.24b7 1.24b8 1.24b9 1.24ba 1.24bb 1.24bc 1.24bd 1.24be
    1.24bf 1.24c0 1.24c1 1.24c2 1.24c3 1.24c4 1.24c5 1.24c6 1.24c7 1.24c8 1.24c9 1.24ca 1.24cb
    1.24cc 1.24cd 1.24ce 1.24cf 747.2c00 1.2c01 1.2c02 1.2c03 1.2c04 1.2c05 1.2c06 1.2c07
    1.2c08 1.2c09 1.2c0a 1.2c0b 1.2c0c 1.2c0d 1.2c0e 1.2c0f 1.2c10 1.2c11 1.2c12 1.2c13 1.2c14
    1.2c15 1.2c16 1.2c17 1.2c18 1.2c19 1.2c1a 1.2c1b 1.2c1c 1.2c1d 1.2c1e 1.2c1f 1.2c20 1.2c21
    1.2c22 1.2c23 1.2c24 1.2c25 1.2c26 1.2c27 1.2c28 1.2c29 1.2c2a 1.2c2b 1.2c2c 1.2c2d 1.2c2e
    1.2c2f 2.2c60 4.23a 1.23e 2.2c67 2.2c69 2.2c6b 7.2c72 3.2c75 b.2c80 2.2c82 2.2c84 2.2c86
    2.2c88 2.2c8a 2.2c8c 2.2c8e 2.2c90 2.2c92 2.2c94 2.2c96 2.2c98 2.2c9a 2.2c9c 2.2c9e 2.2ca0
    2.2ca2 2.2ca4 2.2ca6 2.2ca8 2.2caa 2.2cac 2.2cae 2.2cb0 2.2cb2 2.2cb4 2.2cb6 2.2cb8 2.2cba
    2.2cbc 2.2cbe 2.2cc0 2.2cc2 2.2cc4 2.2cc6 2.2cc8 2.2cca 2.2ccc 2.2cce 2.2cd0 2.2cd2 2.2cd4
    2.2cd6 2.2cd8 2.2cda 2.2cdc 2.2cde 2.2ce0 2.2ce2 9.2ceb 2.2ced 5.2cf2 d.10a0 1.10a1 1.10a2
    1.10a3 1.10a4 1.10a5 1.10a6 1.10a7 1.10a8 1.10a9 1.10aa 1.10ab 1.10ac 1.10ad 1.10ae 1.10af
    1.10b0 1.10b1 1.10b2 1.10b3 1.10b4 1.10b5 1.10b6 1.10b7 1.10b8 1.10b9 1.10ba 1.10bb 1.10bc
    1.10bd 1.10be 1.10bf 1.10c0 1.10c1 1.10c2 1.10c3 1.10c4 1.10c5 2.10c7 6.10cd 7914.a640
    2.a642 2.a644 2.a646 2.a648 2.1c88.a64a 2.a64c 2.a64e 2.a650 2.a652 2.a654 2.a656 2.a658
    2.a65a 2.a65c 2.a65e 2.a660 2.a662 2.a664 2.a666 2.a668 2.a66a 2.a66c 14.a680 2.a682 2.a684
    2.a686 2.a688 2.a68a 2.a68c 2.a68e 2.a690 2.a692 2.a694 2.a696 2.a698 2.a69a 88.a722 2.a724
    2.a726 2.a728 2.a72a 2.a72c 2.a72e 4.a732 2.a734 2.a736 2.a738 2.a73a 2.a73c 2.a73e 2.a740
    2.a742 2.a744 2.a746 2.a748 2.a74a 2.a74c 2.a74e 2.a750 2.a752 2.a754 2.a756 2.a758 2.a75a
    2.a75c 2.a75e 2.a760 2.a762 2.a764 2.a766 2.a768 2.a76a 2.a76c 2.a76e b.a779 2.a77b 3.a77e
    2.a780 2.a782 2.a784 2.a786 5.a78b 5.a790 2.a792 1.a7c4 3.a796 2.a798 2.a79a 2.a79c 2.a79e
    2.a7a0 2.a7a2 2.a7a4 2.a7a6 2.a7a8 c.a7b4 2.a7b6 2.a7b8 2.a7ba 2.a7bc 2.a7be 2.a7c0 2.a7c2
    5.a7c7 2.a7c9 7.a7d0 6.a7d6 2.a7d8 1d.a7f5 35d.a7b3 1d.13a0 1.13a1 1.13a2 1.13a3 1.13a4
    1.13a5 1.13a6 1.13a7 1.13a8 1.13a9 1.13aa 1.13ab 1.13ac 1.13ad 1.13ae 1.13af 1.13b0 1.13b1
    1.13b2 1.13b3 1.13b4 1.13b5 1.13b6 1.13b7 1.13b8 1.13b9 1.13ba 1.13bb 1.13bc 1.13bd 1.13be
    1.13bf 1.13c0 1.13c1 1.13c2 1.13c3 1.13c4 1.13c5 1.13c6 1.13c7 1.13c8 1.13c9 1.13ca 1.13cb
    1.13cc 1.13cd 1.13ce 1.13cf 1.13d0 1.13d1 1.13d2 1.13d3 1.13d4 1.13d5 1.13d6 1.13d7 1.13d8
    1.13d9 1.13da 1.13db 1.13dc 1.13dd 1.13de 1.13df 1.13e0 1.13e1 1.13e2 1.13e3 1.13e4 1.13e5
    1.13e6 1.13e7 1.13e8 1.13e9 1.13ea 1.13eb 1.13ec 1.13ed 1.13ee 1.13ef 4f46.fb06 1.fb05
    43b.ff21 1.ff22 1.ff23 1.ff24 1.ff25 1.ff26 1.ff27 1.ff28 1.ff29 1.ff2a 1.ff2b 1.ff2c
    1.ff2d 1.ff2e 1.ff2f 1.ff30 1.ff31 1.ff32 1.ff33 1.ff34 1.ff35 1.ff36 1.ff37 1.ff38 1.ff39
    1.ff3a 4ce.10400 1.10401 1.10402 1.10403 1.10404 1.10405 1.10406 1.10407 1.10408 1.10409
    1.1040a 1.1040b 1.1040c 1.1040d 1.1040e 1.1040f 1.10410 1.10411 1.10412 1.10413 1.10414
    1.10415 1.10416 1.10417 1.10418 1.10419 1.1041a 1.1041b 1.1041c 1.1041d 1.1041e 1.1041f
    1.10420 1.10421 1.10422 1.10423 1.10424 1.10425 1.10426 1.10427 89.104b0 1.104b1 1.104b2
    1.104b3 1.104b4 1.104b5 1.104b6 1.104b7 1.104b8 1.104b9 1.104ba 1.104bb 1.104bc 1.104bd
    1.104be 1.104bf 1.104c0 1.104c1 1.104c2 1.104c3 1.104c4 1.104c5 1.104c6 1.104c7 1.104c8
    1.104c9 1.104ca 1.104cb 1.104cc 1.104cd 1.104ce 1.104cf 1.104d0 1.104d1 1.104d2 1.104d3
    9c.10570 1.10571 1.10572 1.10573 1.10574 1.10575 1.10576 1.10577 1.10578 1.10579 1.1057a
    2.1057c 1.1057d 1.1057e 1.1057f 1.10580 1.10581 1.10582 1.10583 1.10584 1.10585 1.10586
    1.10587 1.10588 1.10589 1.1058a 2.1058c 1.1058d 1.1058e 1.1058f 1.10590 1.10591 1.10592
    2.10594 1.10595 704.10c80 1.10c81 1.10c82 1.10c83 1.10c84 1.10c85 1.10c86 1.10c87 1.10c88
    1.10c89 1.10c8a 1.10c8b 1.10c8c 1.10c8d 1.10c8e 1.10c8f 1.10c90 1.10c91 1.10c92 1.10c93
    1.10c94 1.10c95 1.10c96 1.10c97 1.10c98 1.10c99 1.10c9a 1.10c9b 1.10c9c 1.10c9d 1.10c9e
    1.10c9f 1.10ca0 1.10ca1 1.10ca2 1.10ca3 1.10ca4 1.10ca5 1.10ca6 1.10ca7 1.10ca8 1.10ca9
    1.10caa 1.10cab 1.10cac 1.10cad 1.10cae 1.10caf 1.10cb0 1.10cb1 1.10cb2 bce.118a0 1.118a1
    1.118a2 1.118a3 1.118a4 1.118a5 1.118a6 1.118a7 1.118a8 1.118a9 1.118aa 1.118ab 1.118ac
    1.118ad 1.118ae 1.118af 1.118b0 1.118b1 1.118b2 1.118b3 1.118b4 1.118b5 1.118b6 1.118b7
    1.118b8 1.118b9 1.118ba 1.118bb 1.118bc 1.118bd 1.118be 1.118bf 5581.16e40 1.16e41 1.16e42
    1.16e43 1.16e44 1.16e45 1.16e46 1.16e47 1.16e48 1.16e49 1.16e4a 1.16e4b 1.16e4c 1.16e4d
    1.16e4e 1.16e4f 1.16e50 1.16e51 1.16e52 1.16e53 1.16e54 1.16e55 1.16e56 1.16e57 1.16e58
    1.16e59 1.16e5a 1.16e5b 1.16e5c 1.16e5d 1.16e5e 1.16e5f 7aa3.1e900 1.1e901 1.1e902 1.1e903
    1.1e904 1.1e905 1.1e906 1.1e907 1.1e908 1.1e909 1.1e90a 1.1e90b 1.1e90c 1.1e90d 1.1e90e
    1.1e90f 1.1e910 1.1e911 1.1e912 1.1e913 1.1e914 1.1e915 1.1e916 1.1e917 1.1e918 1.1e919
    1.1e91a 1.1e91b 1.1e91c 1.1e91d 1.1e91e 1.1e91f 1.1e920 1.1e921"

end Docbase.Text.CaseTable
